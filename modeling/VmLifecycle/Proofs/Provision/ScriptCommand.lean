import VmLifecycle.Proofs.Guest.DoubleQuotes
import VmLifecycle.Proofs.Lifecycle.ValidOptions

/-!
# How a shell reads the provisioning command

The command that runs the provisioning script puts each option between double
quotes and escapes nothing. So a shell reads it as the script with these options
exactly if every option is literal. An address always is, and so are services
that were accepted. Registries need not be, nor the domain, nor default services.
-/

namespace VmLifecycle

/-! ## Characters of accepted services -/

namespace StartOptions

theorem unknownService?_of_validate {o : StartOptions} {services : String}
    (h : o.validate = .ok ()) (hservices : o.services = some services) :
    unknownService? services = Option.none := by
  have hknown := servicesValid_iff.1 (validate_eq_ok.1 h).services
  rwa [hservices, Option.bind_some] at hknown

theorem isSpecial_of_mem_offeredServices :
    ∀ name ∈ offeredServices, ∀ c ∈ name.toList, Shell.isSpecial c = false := by
  have hall : offeredServices.all (·.toList.all (!Shell.isSpecial ·)) = true := by
    decide +kernel
  simpa only [List.all_eq_true, Bool.not_eq_true'] using hall

/-- Services that are all offered hold nothing special between double quotes. -/
theorem isSpecial_of_mem_services {services : String}
    (h : unknownService? services = Option.none) :
    ∀ c ∈ services.toList, Shell.isSpecial c = false := by
  intro c hc
  rw [Bool.eq_false_iff]
  intro hspecial
  -- no special character is a comma or blank, so it is in the name of a service
  have hcomma : c ≠ ',' := by
    rintro rfl
    cases hspecial
  have hblank : Text.isBlank c = false := by
    simp only [Shell.isSpecial, List.contains_cons, List.contains_nil, Bool.or_false,
      Bool.or_eq_true, beq_iff_eq] at hspecial
    rcases hspecial with rfl | rfl | rfl | rfl <;> decide
  obtain ⟨item, hitem, hmem⟩ := (Text.isCommaList_commaItems services).exists_item hc hcomma
  have hoffered : Text.trim item ∈ offeredServices :=
    isOffered_iff.1 (unknownService?_eq_none.1 h item hitem)
  have hplain : Shell.isSpecial c = false :=
    isSpecial_of_mem_offeredServices _ hoffered c ((Text.isTrimmed_trim item).mem hmem hblank)
  rw [hplain] at hspecial
  cases hspecial

end StartOptions

/-! ## Characters of an address -/

namespace Ipv4

theorem isSpecial_of_mem_chars {x : Ipv4} {c : Char} (h : c ∈ x.chars) :
    Shell.isSpecial c = false := by
  rw [Bool.eq_false_iff]
  intro hspecial
  simp only [Shell.isSpecial, List.contains_cons, List.contains_nil, Bool.or_false,
    Bool.or_eq_true, beq_iff_eq] at hspecial
  rcases hspecial with rfl | rfl | rfl | rfl <;> rcases mem_chars h with h | h <;> cases h

theorem isBlank_of_mem_chars {x : Ipv4} {c : Char} (h : c ∈ x.chars) :
    Shell.isBlank c = false := by
  rw [Bool.eq_false_iff]
  intro hblank
  simp only [Shell.isBlank, Bool.or_eq_true, decide_eq_true_eq] at hblank
  rcases hblank with rfl | rfl <;> rcases mem_chars h with h | h <;> cases h

theorem length_chars (x : Ipv4) : 7 ≤ x.chars.length := by
  have hpos (n : Nat) : 0 < (Text.decimal n).length :=
    List.length_pos_iff.2 (Text.decimal_ne_nil n)
  simp only [chars, List.length_append, List.length_cons]
  have := hpos x.a.toNat
  have := hpos x.b.toNat
  have := hpos x.c.toNat
  have := hpos x.d.toNat
  omega

end Ipv4

/-! ## The command -/

namespace Guest

open Shell

/-- The command from the first option on. -/
def quotedOptions (domain ip services registries : List Char) : List Char :=
  domain ++ '"' :: ' ' :: '"' :: (ip ++ '"' :: ' ' :: '"' :: (services ++ '"' :: ' ' :: '"' ::
    (registries ++ ['"'])))

theorem tokens?_provisionCommand (o : ProvisionOptions) :
    tokens? (provisionCommand o) =
      (scan? ⟨[.word scriptPath, .word "-H", .word "sudo"], .double []⟩
        (quotedOptions o.domain.toList o.ip.toList o.services.toList
          (String.intercalate "," o.registries).toList)).bind Scan.finish? := by
  have hlead : scan? ⟨[], .between⟩ ("sudo -H ".toList ++ (scriptPath.toList ++ " \"".toList)) =
      some ⟨[.word scriptPath, .word "-H", .word "sudo"], .double []⟩ := by
    rfl
  have hcommand : (provisionCommand o).toList =
      ("sudo -H ".toList ++ (scriptPath.toList ++ " \"".toList)) ++
        quotedOptions o.domain.toList o.ip.toList o.services.toList
          (String.intercalate "," o.registries).toList := by
    have hbetween : "\" \"".toList = ['"', ' ', '"'] := rfl
    have hlast : "\"".toList = ['"'] := rfl
    unfold provisionCommand quotedOptions
    simp only [String.toList_append, List.append_assoc]
    rw [hbetween, hlast]
    simp only [List.cons_append, List.nil_append]
  rw [tokens?, hcommand, scan?_append hlead]

/-- A quoted text that is literal is the next word, if another one follows. -/
theorem scan?_quotedWord {taken : List Token} {text : List Char} (htext : isLiteral text = true)
    (rest : List Char) : scan? ⟨taken, .double []⟩ (text ++ '"' :: ' ' :: '"' :: rest) =
      scan? ⟨.word (String.ofList text) :: taken, .double []⟩ rest := by
  rw [scan?_quotedLiteral htext]
  show scan? ⟨Scan.endWord taken text.reverse, .double []⟩ rest = _
  rw [Scan.endWord, List.reverse_reverse]

/-- Between double quotes and blanks literal texts are read one by one. -/
theorem scan?_quotedOptions {taken : List Token} {domain ip services registries : List Char}
    (hdomain : isLiteral domain = true) (hip : isLiteral ip = true)
    (hservices : isLiteral services = true) (hregistries : isLiteral registries = true) :
    scan? ⟨taken, .double []⟩ (quotedOptions domain ip services registries) =
      some ⟨.word (String.ofList services) :: .word (String.ofList ip) ::
        .word (String.ofList domain) :: taken, .bare registries.reverse⟩ := by
  rw [quotedOptions, scan?_quotedWord hdomain, scan?_quotedWord hip, scan?_quotedWord hservices,
    scan?_quotedLiteral hregistries]
  rfl

/-- A row of quoted texts is read as it is only if each of them is literal. It is
enough for this that the second one is, and that it is long and without blanks. -/
theorem isLiteral_of_quotedOptions {taken : List Token} {domain ip services registries : String}
    {t : Scan} (hip : isLiteral ip.toList = true) (hblank : ∀ c ∈ ip.toList, isBlank c = false)
    (hlength : 7 ≤ ip.toList.length)
    (h : scan? ⟨taken, .double []⟩
      (quotedOptions domain.toList ip.toList services.toList registries.toList) = some t)
    (hfinish : t.finish? = some (taken.reverse ++
      [.word domain, .word ip, .word services, .word registries])) :
    isLiteral domain.toList = true ∧ isLiteral services.toList = true ∧
      isLiteral registries.toList = true := by
  have hdomain : isLiteral domain.toList = true := by
    have hquoted : quotedOptions domain.toList ip.toList services.toList registries.toList =
        domain.toList ++ '"' :: ' ' :: (('"' :: (ip.toList ++ '"' :: ' ' :: '"' ::
          (services.toList ++ '"' :: ' ' :: '"' :: registries.toList))) ++ ['"']) := by
      simp [quotedOptions]
    rw [hquoted] at h
    refine isLiteral_of_finish? h hfinish ?_
    -- the characters to spare are a quote and the first six of the second text
    have hspare : ('"' :: (ip.toList ++ '"' :: ' ' :: '"' ::
        (services.toList ++ '"' :: ' ' :: '"' :: registries.toList))).length -
        takenSize [.word ip, .word services, .word registries] = 6 + 1 := by
      simp only [takenSize, Token.size, List.length_cons, List.length_append]
      omega
    rw [hspare, List.take_succ_cons, List.take_append_of_le_length (by omega)]
    exact List.forall_mem_cons.2 ⟨rfl, fun c hc => hblank c (List.mem_of_mem_take hc)⟩
  rw [quotedOptions, scan?_quotedWord hdomain, scan?_quotedWord hip, String.ofList_toList,
    String.ofList_toList] at h
  have hservices : isLiteral services.toList = true := by
    have hquoted : services.toList ++ '"' :: ' ' :: '"' :: (registries.toList ++ ['"']) =
        services.toList ++ '"' :: ' ' :: (('"' :: registries.toList) ++ ['"']) := rfl
    rw [hquoted] at h
    have hrest : t.finish? = some ((.word ip :: .word domain :: taken).reverse ++
        [.word services, .word registries]) := by
      simpa using hfinish
    refine isLiteral_of_finish? h hrest ?_
    -- only the quote is to spare
    have hspare : ('"' :: registries.toList).length - takenSize [.word registries] = 1 := by
      simp [takenSize, Token.size]
    rw [hspare]
    simp [isBlank]
  rw [scan?_quotedWord hservices, String.ofList_toList] at h
  exact ⟨hdomain, hservices, isLiteral_of_finish?_last h (by simpa using hfinish)⟩

/-- For options that were accepted a shell reads the command as the script with
these options, and nothing else, exactly if the domain, the registries and the
services that stand in for missing ones are literal. -/
theorem tokens?_provisionCommand_iff {start : StartOptions} (hvalid : start.validate = .ok ())
    (config : VmConfig) (defaultServices : String) :
    tokens? (provisionCommand (.ofStart config start defaultServices)) =
        some [.word "sudo", .word "-H", .word scriptPath, .word config.domain,
          .word config.ip.toText, .word (start.services.getD defaultServices),
          .word (String.intercalate "," start.registries)] ↔
      isLiteral config.domain.toList = true ∧
        (start.services = none → isLiteral defaultServices.toList = true) ∧
        isLiteral (String.intercalate "," start.registries).toList = true := by
  have hip : isLiteral config.ip.toText.toList = true := by
    rw [Ipv4.toText, String.toList_ofList]
    exact isLiteral_of_isSpecial fun c hc => Ipv4.isSpecial_of_mem_chars hc
  rw [tokens?_provisionCommand]
  constructor
  · intro h
    obtain ⟨t, ht, hfinish⟩ := Option.bind_eq_some_iff.1 h
    have hblank : ∀ c ∈ config.ip.toText.toList, isBlank c = false := by
      intro c hc
      rw [Ipv4.toText, String.toList_ofList] at hc
      exact Ipv4.isBlank_of_mem_chars hc
    have hlength : 7 ≤ config.ip.toText.toList.length := by
      rw [Ipv4.toText, String.toList_ofList]
      exact config.ip.length_chars
    obtain ⟨hdomain, hservices, hregistries⟩ :=
      isLiteral_of_quotedOptions hip hblank hlength ht hfinish
    refine ⟨hdomain, fun hnone => ?_, hregistries⟩
    rwa [ProvisionOptions.ofStart, hnone] at hservices
  · rintro ⟨hdomain, hdefault, hregistries⟩
    have hservices : isLiteral (start.services.getD defaultServices).toList = true := by
      cases hgiven : start.services with
      | none => exact hdefault hgiven
      | some services =>
          have hknown := StartOptions.unknownService?_of_validate hvalid hgiven
          exact isLiteral_of_isSpecial (StartOptions.isSpecial_of_mem_services hknown)
    simp only [ProvisionOptions.ofStart]
    rw [scan?_quotedOptions hdomain hip hservices hregistries, Option.bind_some, Scan.finish?,
      Scan.endWord, List.reverse_reverse]
    simp only [String.ofList_toList]
    rfl

/-- A blank in the services and a colon in the registry are read as they are. -/
theorem tokens?_provisionCommand_of_registry :
    let config : VmConfig := ⟨"pcfdev-v1", ⟨192, 168, 11, 11⟩, "local.pcfdev.io", 2222, 4096, 2⟩
    let start : StartOptions :=
      { StartOptions.none with services := some "redis, mysql", registries := ["host.io:5000"] }
    start.validate = .ok () ∧
      tokens? (provisionCommand (.ofStart config start "default")) =
        some [.word "sudo", .word "-H", .word "/var/pcfdev/provision", .word "local.pcfdev.io",
          .word "192.168.11.11", .word "redis, mysql", .word "host.io:5000"] := by
  intro config start
  have hvalid : start.validate = .ok () := by rfl
  have hliteral : isLiteral config.domain.toList = true ∧
      (start.services = none → isLiteral "default".toList = true) ∧
      isLiteral (String.intercalate "," start.registries).toList = true :=
    ⟨by decide +kernel, nofun, by decide +kernel⟩
  have hwords := (tokens?_provisionCommand_iff hvalid config "default").2 hliteral
  exact ⟨hvalid, hwords.trans (by decide +kernel)⟩

/-- A registry that is accepted, and closes the quotes around it: a shell reads
three commands, and the second one reboots the guest. -/
theorem reboots_of_registry :
    let config : VmConfig := ⟨"pcfdev-v1", ⟨192, 168, 11, 11⟩, "local.pcfdev.io", 2222, 4096, 2⟩
    let start : StartOptions :=
      { StartOptions.none with registries := ["\"; reboot; \""] }
    start.validate = .ok () ∧
      tokens? (provisionCommand (.ofStart config start "default")) =
        some [.word "sudo", .word "-H", .word "/var/pcfdev/provision", .word "local.pcfdev.io",
          .word "192.168.11.11", .word "default", .word "", .operator ';', .word "reboot",
          .operator ';', .word ""] ∧
      tokens? (provisionCommand (.ofStart config start "default")) ≠
        some [.word "sudo", .word "-H", .word "/var/pcfdev/provision", .word "local.pcfdev.io",
          .word "192.168.11.11", .word "default", .word "\"; reboot; \""] := by
  intro config start
  refine ⟨rfl, ?_, ?_⟩
  · decide +kernel
  · decide +kernel

end Guest

end VmLifecycle
