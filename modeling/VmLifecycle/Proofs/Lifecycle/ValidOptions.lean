import VmLifecycle.Proofs.Since
import VmLifecycle.Proofs.Text.Cutting
import VmLifecycle.StartOptions
import Mathlib.Data.List.Induction

/-!
# Which options can be built

Settings are taken one after the other, and their values are looked at when all are there. Of
the settings the last value of each option counts, and all registries in order. One more setting
keeps this up, so it is what is looked at in the end. Of several rules that are broken the first
one is reported.
-/

namespace VmLifecycle

namespace StartOptions

open Text

variable {α : Type} {kind : α → Setting} {settings : List Setting} {s : Setting} {a b : α}
  {v w : Option α} {o : StartOptions} {services item name words : String}
  {problem : OptionProblem} {e : LifecycleError}

/-! ## What settings give -/

/-- The value that settings give last for an option, where `kind` gives it a value. -/
def LastGiven (kind : α → Setting) (settings : List Setting) : Option α → Prop
  | some a => Since (fun s => s = kind a) (fun later => ∀ b, later ≠ kind b) settings
  | Option.none => ∀ b, kind b ∉ settings

/-- The registry that a setting adds. -/
def Setting.registry? : Setting → Option String
  | .registry address => some address
  | _ => Option.none

/-- The options that settings give: of each the last value as it was given, and all registries
in order. -/
structure Given (settings : List Setting) (o : StartOptions) : Prop where
  memory : LastGiven .memory settings o.memory
  cpus : LastGiven .cpus settings o.cpus
  services : LastGiven .services settings o.services
  registries : settings.filterMap Setting.registry? = o.registries
  ip : LastGiven .ip settings o.ip
  domain : LastGiven .domain settings o.domain
  imagePath : LastGiven .imagePath settings o.imagePath
  noProvision : o.noProvision = true ↔ .noProvision ∈ settings

@[simp] theorem lastGiven_nil : LastGiven kind [] v ↔ v = Option.none := by
  cases v <;> simp [LastGiven, not_since_nil]

/-- A later value takes the place of those before it. -/
@[simp] theorem lastGiven_concat : LastGiven kind (settings ++ [s]) v ↔
    (∃ a, s = kind a ∧ v = some a) ∨ (∀ a, s ≠ kind a) ∧ LastGiven kind settings v := by
  cases v with
  | none => simp [LastGiven, forall_and, eq_comm, and_comm]
  | some a => simp [LastGiven, since_concat]

theorem lastGiven_unique (hkind : Function.Injective kind) (hv : LastGiven kind settings v)
    (hw : LastGiven kind settings w) : v = w := by
  induction settings using List.reverseRecOn with
  | nil =>
      rw [lastGiven_nil] at hv hw
      rw [hv, hw]
  | append_singleton settings s ih =>
      rw [lastGiven_concat] at hv hw
      rcases hv with ⟨a, rfl, rfl⟩ | ⟨hs, hv⟩ <;> rcases hw with ⟨b, hb, rfl⟩ | ⟨hs', hw⟩
      · rw [hkind hb]
      · exact absurd rfl (hs' a)
      · exact absurd hb (hs b)
      · exact ih hv hw

/-- One more setting keeps the options those that were given. -/
theorem Given.concat (h : Given settings o) (s : Setting) : Given (settings ++ [s]) (o.set s) where
  memory := by cases s <;> simp [StartOptions.set, h.memory]
  cpus := by cases s <;> simp [StartOptions.set, h.cpus]
  services := by cases s <;> simp [StartOptions.set, h.services]
  registries := by cases s <;> simp [StartOptions.set, Setting.registry?, h.registries]
  ip := by cases s <;> simp [StartOptions.set, h.ip]
  domain := by cases s <;> simp [StartOptions.set, h.domain]
  imagePath := by cases s <;> simp [StartOptions.set, h.imagePath]
  noProvision := by cases s <;> simp [StartOptions.set, h.noProvision]

theorem given_foldl (settings : List Setting) : Given settings (settings.foldl set none) := by
  induction settings using List.reverseRecOn with
  | nil => constructor <;> simp [none]
  | append_singleton settings s ih =>
      rw [List.foldl_append]
      exact ih.concat s

theorem Given.unique {o' : StartOptions} (h : Given settings o) (h' : Given settings o') :
    o = o' := by
  have hmemory := lastGiven_unique (fun _ _ => Setting.memory.inj) h.memory h'.memory
  have hcpus := lastGiven_unique (fun _ _ => Setting.cpus.inj) h.cpus h'.cpus
  have hservices := lastGiven_unique (fun _ _ => Setting.services.inj) h.services h'.services
  have hregistries : o.registries = o'.registries := h.registries.symm.trans h'.registries
  have hip := lastGiven_unique (fun _ _ => Setting.ip.inj) h.ip h'.ip
  have hdomain := lastGiven_unique (fun _ _ => Setting.domain.inj) h.domain h'.domain
  have himage := lastGiven_unique (fun _ _ => Setting.imagePath.inj) h.imagePath h'.imagePath
  have hprovision : o.noProvision = o'.noProvision :=
    Bool.eq_iff_iff.2 (h.noProvision.trans h'.noProvision.symm)
  cases o
  cases o'
  simp_all

theorem given_iff : Given settings o ↔ o = settings.foldl set none := by
  constructor
  · exact fun h => h.unique (given_foldl settings)
  · rintro rfl
    exact given_foldl settings

/-! ## What is asked of the values -/

/-- An item that is the name of a service, blanks around it aside. -/
def IsOffered (item : String) : Prop :=
  ∃ name, IsTrimmed item name ∧ name ∈ offeredServices

def CpusValid (o : StartOptions) : Prop :=
  o.cpus ≠ some 0

def ServicesValid (o : StartOptions) : Prop :=
  ∀ services, o.services = some services →
    ∃ items, IsCommaList services items ∧ ∀ item ∈ items, IsOffered item

def RegistriesValid (o : StartOptions) : Prop :=
  ∀ address ∈ o.registries, ¬ IsBlank address

structure Valid (o : StartOptions) : Prop where
  cpus : o.CpusValid
  services : o.ServicesValid
  registries : o.RegistriesValid

/-- The first of the rules that options break, as a problem and in words. -/
inductive Breaks (o : StartOptions) : OptionProblem → String → Prop
  | cpus (h : ¬ o.CpusValid) : Breaks o .noCpus "cpus must be at least 1"
  | services {services item name : String} {before after : List String}
      (hcpus : o.CpusValid) (hservices : o.services = some services)
      (hitems : IsCommaList services (before ++ item :: after))
      (hbefore : ∀ earlier ∈ before, IsOffered earlier) (hitem : ¬ IsOffered item)
      (hname : IsTrimmed item name) :
      Breaks o (.unknownService name) (name ++ " is not a supported service")
  | registries (hcpus : o.CpusValid) (hservices : o.ServicesValid) (h : ¬ o.RegistriesValid) :
      Breaks o .blankRegistry "registry must not be empty"

theorem isOffered_iff : IsOffered item ↔ trim item ∈ offeredServices := by
  constructor
  · rintro ⟨name, hname, hoffered⟩
    rwa [isTrimmed_iff.1 hname]
  · exact fun h => ⟨trim item, isTrimmed_trim item, h⟩

/-- The name of a service is not blank. -/
theorem not_isOffered_of_isBlank (h : IsBlank item) : ¬ IsOffered item := by
  rw [isOffered_iff, trim_eq_empty_iff.2 h]
  decide

theorem unknownService?_eq_none :
    unknownService? services = Option.none ↔ ∀ item ∈ commaItems services, IsOffered item := by
  simp [unknownService?, serviceNames, isOffered_iff]

theorem unknownService?_eq_some : unknownService? services = some name ↔
    ∃ before item after, IsCommaList services (before ++ item :: after) ∧
      (∀ earlier ∈ before, IsOffered earlier) ∧ ¬ IsOffered item ∧ IsTrimmed item name := by
  simp only [unknownService?, serviceNames, List.find?_map, Option.map_eq_some_iff,
    List.find?_eq_some_iff_append, Function.comp_apply, Bool.not_eq_true', Bool.not_not,
    List.contains_eq_mem, decide_eq_false_iff_not, decide_eq_true_eq, isCommaList_iff,
    isOffered_iff, isTrimmed_iff]
  constructor
  · rintro ⟨item, ⟨hitem, before, after, hitems, hbefore⟩, hname⟩
    exact ⟨before, item, after, hitems.symm, hbefore, hitem, hname⟩
  · rintro ⟨before, item, after, hitems, hbefore, hitem, hname⟩
    exact ⟨item, ⟨hitem, before, after, hitems.symm, hbefore⟩, hname⟩

theorem servicesValid_iff :
    o.ServicesValid ↔ o.services.bind unknownService? = Option.none := by
  rw [Option.bind_eq_none_iff]
  simp only [unknownService?_eq_none, ServicesValid, isCommaList_iff, exists_eq_left]

theorem registriesValid_iff :
    o.RegistriesValid ↔ (o.registries.any fun r => (trim r).isEmpty) = false := by
  simp [RegistriesValid, ← trim_eq_empty_iff]

/-! ## The rules are looked at in order -/

theorem Valid.problem?_eq_none (h : o.Valid) : o.problem? = Option.none := by
  have hservices := servicesValid_iff.1 h.services
  have hregistries := registriesValid_iff.1 h.registries
  simp [problem?, if_neg h.cpus, hservices, hregistries]

theorem Breaks.problem?_eq_some (h : o.Breaks problem words) : o.problem? = some problem := by
  cases h with
  | cpus h => exact if_pos (not_not.1 h)
  | services hcpus hservices hitems hbefore hitem hname =>
      have hunknown := unknownService?_eq_some.2 ⟨_, _, _, hitems, hbefore, hitem, hname⟩
      simp [problem?, if_neg hcpus, hservices, hunknown]
  | registries hcpus hservices h =>
      rw [registriesValid_iff, Bool.not_eq_false] at h
      simp [problem?, if_neg hcpus, servicesValid_iff.1 hservices, h]

theorem Breaks.words_eq (h : o.Breaks problem words) : words = problem.message := by
  cases h <;> rfl

theorem exists_breaks_of_not_valid (h : ¬ o.Valid) : ∃ problem words, o.Breaks problem words := by
  by_cases hcpus : o.CpusValid
  · by_cases hservices : o.ServicesValid
    · have hregistries : ¬ o.RegistriesValid := fun hregistries => h ⟨hcpus, hservices, hregistries⟩
      exact ⟨_, _, .registries hcpus hservices hregistries⟩
    · rw [servicesValid_iff, ← ne_eq, Option.ne_none_iff_exists'] at hservices
      obtain ⟨name, hname⟩ := hservices
      obtain ⟨services, hservices, hunknown⟩ := Option.bind_eq_some_iff.1 hname
      obtain ⟨before, item, after, hitems, hbefore, hitem, hname⟩ :=
        unknownService?_eq_some.1 hunknown
      exact ⟨_, _, .services hcpus hservices hitems hbefore hitem hname⟩
  · exact ⟨_, _, .cpus hcpus⟩

theorem problem?_eq_none : o.problem? = Option.none ↔ o.Valid := by
  constructor
  · intro h
    by_contra hvalid
    obtain ⟨problem, words, hbreaks⟩ := exists_breaks_of_not_valid hvalid
    cases h.symm.trans hbreaks.problem?_eq_some
  · exact Valid.problem?_eq_none

instance (o : StartOptions) : Decidable o.Valid :=
  decidable_of_iff _ problem?_eq_none

theorem problem?_eq_some : o.problem? = some problem ↔ ∃ words, o.Breaks problem words := by
  constructor
  · intro h
    have hvalid : ¬ o.Valid := fun hvalid => by cases h.symm.trans hvalid.problem?_eq_none
    obtain ⟨broken, words, hbreaks⟩ := exists_breaks_of_not_valid hvalid
    obtain rfl : problem = broken := Option.some.inj (h.symm.trans hbreaks.problem?_eq_some)
    exact ⟨words, hbreaks⟩
  · rintro ⟨words, hbreaks⟩
    exact hbreaks.problem?_eq_some

theorem validate_eq_ok : o.validate = .ok () ↔ o.Valid := by
  rw [← problem?_eq_none, validate]
  cases o.problem? <;> simp

theorem validate_eq_error : o.validate = .error e ↔
    ∃ problem words, o.Breaks problem words ∧ e = .invalidOption problem := by
  simp only [exists_and_right, ← problem?_eq_some, validate]
  cases o.problem? <;> simp [eq_comm]

theorem build_eq_ok : build settings = .ok o ↔ Given settings o ∧ o.Valid := by
  have hbuild : build settings = .ok o ↔
      (settings.foldl set none).validate = .ok () ∧ settings.foldl set none = o := by
    rw [build]
    cases (settings.foldl set none).validate <;> simp
  rw [hbuild, validate_eq_ok, given_iff]
  constructor
  · rintro ⟨hvalid, rfl⟩
    exact ⟨rfl, hvalid⟩
  · rintro ⟨rfl, hvalid⟩
    exact ⟨hvalid, rfl⟩

theorem build_eq_error : build settings = .error e ↔
    ∃ o problem words, Given settings o ∧ o.Breaks problem words ∧ e = .invalidOption problem := by
  have hbuild : build settings = .error e ↔ (settings.foldl set none).validate = .error e := by
    rw [build]
    cases (settings.foldl set none).validate <;> simp
  rw [hbuild, validate_eq_error]
  constructor
  · rintro ⟨problem, words, hbreaks, he⟩
    exact ⟨_, problem, words, given_foldl settings, hbreaks, he⟩
  · rintro ⟨o, problem, words, hgiven, hbreaks, he⟩
    obtain rfl := given_iff.1 hgiven
    exact ⟨problem, words, hbreaks, he⟩

/-- Services with nothing between two commas, or nothing at all, are refused. -/
theorem exists_build_eq_error_of_isBlank (h : LastGiven .services settings (some services))
    (hitems : IsCommaList services items) (hitem : item ∈ items) (hblank : IsBlank item) :
    ∃ e, build settings = .error e := by
  have hgiven := given_foldl settings
  have hservices := lastGiven_unique (fun _ _ => Setting.services.inj) hgiven.services h
  have hinvalid : ¬ (settings.foldl set none).Valid := by
    intro hvalid
    obtain ⟨offered, hoffered, hall⟩ := hvalid.services _ hservices
    rw [isCommaList_iff.1 hoffered, ← isCommaList_iff.1 hitems] at hall
    exact not_isOffered_of_isBlank hblank (hall item hitem)
  obtain ⟨problem, words, hbreaks⟩ := exists_breaks_of_not_valid hinvalid
  exact ⟨_, build_eq_error.2 ⟨_, problem, words, hgiven, hbreaks, rfl⟩⟩

/-- Settings give one value for each option, the last one as it stands, and all registries in
order. They are accepted exactly if the options that they give are valid: the number of CPUs is
not zero, each item of the services is offered, blanks around it aside, and no registry is
blank. Otherwise the first of these rules that is broken is reported, and of the services the
first item that is not offered, trimmed. Services with a blank item are always refused. -/
theorem build_accepts_valid_options (settings : List Setting) :
    (∃! o, Given settings o) ∧
    (∀ o, build settings = .ok o ↔ Given settings o ∧ o.Valid) ∧
    (∀ e, build settings = .error e ↔ ∃ o problem words, Given settings o ∧
      o.Breaks problem words ∧ e = .invalidOption problem ∧
        e.message = "invalid start option: " ++ words) ∧
    ∀ services, LastGiven .services settings (some services) →
      (services = "" ∨ ∃ items, IsCommaList services items ∧ ∃ item ∈ items, IsBlank item) →
      ∃ e, build settings = .error e := by
  refine ⟨⟨_, given_foldl settings, fun o h => given_iff.1 h⟩, fun o => build_eq_ok,
    fun e => ?_, fun services hlast hblank => ?_⟩
  · rw [build_eq_error]
    constructor
    · rintro ⟨o, problem, words, hgiven, hbreaks, rfl⟩
      obtain rfl := hbreaks.words_eq
      exact ⟨o, problem, _, hgiven, hbreaks, rfl, rfl⟩
    · rintro ⟨o, problem, words, hgiven, hbreaks, he, -⟩
      exact ⟨o, problem, words, hgiven, hbreaks, he⟩
  · rcases hblank with rfl | ⟨items, hitems, item, hitem, hblank⟩
    · exact exists_build_eq_error_of_isBlank hlast (isCommaList_commaItems "")
        (List.mem_singleton_self "") nofun
    · exact exists_build_eq_error_of_isBlank hlast hitems hitem hblank

/-- Later values count, and they are kept with their blanks. The first unknown service is
reported, whatever comes behind it and blank registries, and an empty item is refused too. -/
theorem build_of_repeated_settings :
    build [.registry " r.example ", .cpus 0, .services "mongodb", .cpus 2,
        .services "redis,\u3000all\t", .registry "r.example", .noProvision] =
      .ok { none with
        cpus := some 2, services := some "redis,\u3000all\t",
        registries := [" r.example ", "r.example"], noProvision := true } ∧
    build [.registry "\t", .services "mysql,\u3000mongodb ,", .cpus 1] =
      .error (.invalidOption (.unknownService "mongodb")) ∧
    LastGiven .services [.services "mysql", .services "mysql,,redis"] (some "mysql,,redis") ∧
    IsCommaList "mysql,,redis" ["mysql", "", "redis"] ∧
    ∃ e, build [.services "mysql", .services "mysql,,redis"] = .error e := by
  have hlast : LastGiven .services [.services "mysql", .services "mysql,,redis"]
      (some "mysql,,redis") := ⟨[.services "mysql"], _, [], rfl, rfl, nofun⟩
  have hempty : IsCommaList "mysql,,redis" ["mysql", "", "redis"] :=
    isCommaList_iff.2 (by decide +kernel)
  have hunknown : IsCommaList "mysql,\u3000mongodb ," (["mysql"] ++ "\u3000mongodb " :: [""]) :=
    isCommaList_iff.2 (by decide +kernel)
  have hmysql : ∀ earlier ∈ ["mysql"], IsOffered earlier := by
    intro earlier h
    obtain rfl := List.mem_singleton.1 h
    exact isOffered_iff.2 (by decide +kernel)
  have hmongodb : IsTrimmed "\u3000mongodb " "mongodb" := isTrimmed_iff.2 (by decide +kernel)
  refine ⟨?_, ?_, hlast, hempty, ?_⟩
  · refine ((build_accepts_valid_options _).2.1 _).2 ⟨given_iff.2 rfl, ?_⟩
    decide +kernel
  · refine ((build_accepts_valid_options _).2.2.1 _).2 ⟨_, _, _, given_iff.2 rfl, ?_, rfl, rfl⟩
    have hcpus : (some 1 : Option UInt32) ≠ some 0 := by decide
    refine .services hcpus rfl hunknown hmysql ?_ hmongodb
    rw [isOffered_iff]
    decide +kernel
  · exact (build_accepts_valid_options _).2.2.2 _ hlast
      (.inr ⟨_, hempty, "", by decide, nofun⟩)

end StartOptions

end VmLifecycle
