import VmLifecycle.Lifecycle.Operations
import VmLifecycle.Proofs.Effect.Runs
import VmLifecycle.Proofs.Lifecycle.Confinement
import Mathlib.Data.List.Basic
import Mathlib.Logic.Function.Basic

/-!
# A diagnostic bundle is complete

The runs of a collection are few: it ends at the directory, at the report, at a file that cannot
be written, or with all files. A command of the guest that fails ends nothing. What the bundle
holds is read off the trace, from the files that were written in it.
-/

namespace VmLifecycle.DebugBundle

open Program

variable {ctx : Context} {config : VmConfig} {dir target file command : String}
  {files : List (String × String)} {trace : List Exchange}
  {r : Option (Except LifecycleError Unit)}

/-! ## The loop over the commands -/

/-- What is written for a command of the guest. -/
def fileText (command : String) : Except Fault String → String
  | .ok output => output
  | .error fault => failureText command fault

/-- The runs of the loop: each command is run once, in order, and what it gave is written before
the next. Only a file that cannot be written ends the loop. -/
inductive Written (channel : Channel) (target : String) :
    List (String × String) → List Exchange → Except LifecycleError Unit → Prop
  | nil : Written channel target [] [] (.ok ())
  | refused {file command : String} {files : List (String × String)}
      (reply : Except Fault String) (error : IoError) :
      Written channel target ((file, command) :: files)
        [⟨.commandOutput command channel, reply⟩,
         ⟨.writeFile (Text.joinPath target file) (fileText command reply), .error error⟩]
        (.error (.io error))
  | cons {file command : String} {files : List (String × String)} {rest : List Exchange}
      {result : Except LifecycleError Unit} (reply : Except Fault String)
      (hrest : Written channel target files rest result) :
      Written channel target ((file, command) :: files)
        (⟨.commandOutput command channel, reply⟩ ::
          ⟨.writeFile (Text.joinPath target file) (fileText command reply), .ok ()⟩ :: rest)
        result

theorem runs_writeFile {path content : String} :
    Runs (writeFile path content).run trace r ↔
      ∃ reply, trace = [⟨.writeFile path content, reply⟩] ∧ r = some (reply.mapError .io) := by
  constructor
  · intro run
    obtain ⟨reply, rest, rfl, hend⟩ := runs_ask.1 run
    obtain ⟨rfl, rfl⟩ := runs_done.1 hend
    exact ⟨reply, rfl, rfl⟩
  · rintro ⟨reply, rfl, rfl⟩
    exact .ask reply (.done _)

/-- Whether the command fails or not, what it gave is written. -/
theorem runs_writeOutput :
    Runs (writeOutput ctx config target file command).run trace r ↔
      ∃ (reply : Except Fault String) (stored : Except IoError Unit),
        trace = [⟨.commandOutput command (ctx.channel config), reply⟩,
          ⟨.writeFile (Text.joinPath target file) (fileText command reply), stored⟩] ∧
        r = some (stored.mapError .io) := by
  constructor
  · intro run
    obtain ⟨reply, rest, rfl, hrest⟩ := runs_ask.1 run
    rcases reply with fault | output
    · obtain ⟨stored, rfl, rfl⟩ := runs_writeFile.1 (runs_note.1 hrest)
      exact ⟨.error fault, stored, rfl, rfl⟩
    · obtain ⟨stored, rfl, rfl⟩ := runs_writeFile.1 hrest
      exact ⟨.ok output, stored, rfl, rfl⟩
  · rintro ⟨reply, stored, rfl, rfl⟩
    rcases reply with fault | output
    · exact .ask _ (.note (runs_writeFile.2 ⟨stored, rfl, rfl⟩))
    · exact .ask _ (runs_writeFile.2 ⟨stored, rfl, rfl⟩)

theorem runs_writeOutputs :
    Runs (writeOutputs ctx config target files).run trace r ↔
      ∃ result, r = some result ∧ Written (ctx.channel config) target files trace result := by
  constructor
  · intro run
    induction files generalizing trace with
    | nil =>
        obtain ⟨rfl, rfl⟩ := runs_done.1 run
        exact ⟨_, rfl, .nil⟩
    | cons f files ih =>
        obtain ⟨file, command⟩ := f
        rcases runs_run_bind.1 run with ⟨_, first, rest, rfl, hfirst, hrest⟩ |
          ⟨error, hfirst, rfl⟩ | ⟨hfirst, -⟩
        · obtain ⟨reply, stored, rfl, hstored⟩ := runs_writeOutput.1 hfirst
          obtain ⟨result, rfl, hwritten⟩ := ih hrest
          rcases stored with error | ⟨⟩
          · cases hstored
          · exact ⟨result, rfl, .cons reply hwritten⟩
        · obtain ⟨reply, stored, rfl, hstored⟩ := runs_writeOutput.1 hfirst
          rcases stored with error' | ⟨⟩
          · cases hstored
            exact ⟨_, rfl, .refused reply error'⟩
          · cases hstored
        · obtain ⟨_, _, _, hnone⟩ := runs_writeOutput.1 hfirst
          cases hnone
  · rintro ⟨result, rfl, hwritten⟩
    induction hwritten with
    | nil => exact .done _
    | refused reply error =>
        refine runs_run_bind.2 (.inr (.inl ⟨_, ?_, rfl⟩))
        exact runs_writeOutput.2 ⟨reply, .error error, rfl, rfl⟩
    | cons reply _ ih =>
        refine runs_run_bind.2 (.inl ⟨(), [_, _], _, rfl, ?_, ih⟩)
        exact runs_writeOutput.2 ⟨reply, .ok (), rfl, rfl⟩

/-! ## The whole collection -/

/-- The directory of a new bundle. -/
def bundleDirectory (dir stamp : String) : String :=
  Text.joinPath dir ("pcfdev-debug-" ++ stamp)

/-- What a collection begins with, up to the report. -/
def opening (config : VmConfig) (target stamp : String) (report : Except Fault String) :
    List Exchange :=
  [⟨.timestamp, stamp⟩, ⟨.createDirectory target, .ok ()⟩, ⟨.report config.name, report⟩]

def closing (target : String) : Exchange :=
  ⟨.tell ("Debug logs written to " ++ target), ()⟩

/-- The runs of a collection from these commands. -/
inductive Gathered (ctx : Context) (config : VmConfig) (dir : String)
    (files : List (String × String)) : List Exchange → Except LifecycleError Unit → Prop
  | noDirectory (stamp : String) (error : IoError) :
      Gathered ctx config dir files
        [⟨.timestamp, stamp⟩, ⟨.createDirectory (bundleDirectory dir stamp), .error error⟩]
        (.error (.io error))
  | noReport (stamp : String) (fault : Fault) :
      Gathered ctx config dir files
        (opening config (bundleDirectory dir stamp) stamp (.error fault)) (.error (.vm fault))
  | noInfo (stamp info : String) (error : IoError) :
      Gathered ctx config dir files
        (opening config (bundleDirectory dir stamp) stamp (.ok info) ++
          [⟨.writeFile (Text.joinPath (bundleDirectory dir stamp) "vm-info.txt") info,
            .error error⟩])
        (.error (.io error))
  | stopped (stamp info : String) {outputs : List Exchange} {error : LifecycleError}
      (hwritten : Written (ctx.channel config) (bundleDirectory dir stamp) files outputs
        (.error error)) :
      Gathered ctx config dir files
        (opening config (bundleDirectory dir stamp) stamp (.ok info) ++
          (⟨.writeFile (Text.joinPath (bundleDirectory dir stamp) "vm-info.txt") info, .ok ()⟩ ::
            outputs))
        (.error error)
  | complete (stamp info : String) {outputs : List Exchange}
      (hwritten : Written (ctx.channel config) (bundleDirectory dir stamp) files outputs (.ok ())) :
      Gathered ctx config dir files
        (opening config (bundleDirectory dir stamp) stamp (.ok info) ++
          (⟨.writeFile (Text.joinPath (bundleDirectory dir stamp) "vm-info.txt") info, .ok ()⟩ ::
            (outputs ++ [closing (bundleDirectory dir stamp)])))
        (.ok ())

/-- The commands that a collection runs, if it may. -/
def listed (includeGuest : Bool) : List (String × String) :=
  if includeGuest then diagnostics else []

/-- What is left of a collection once the report is written. -/
def finish (ctx : Context) (config : VmConfig) (target : String)
    (files : List (String × String)) : Action Unit := do
  writeOutputs ctx config target files
  Program.log (.info "Collected debug logs"
    [("vm", .text config.name), ("path", .text target)])
  tell ("Debug logs written to " ++ target)

theorem runs_finish :
    Runs (finish ctx config target files).run trace r ↔
      (∃ outputs, trace = outputs ++ [closing target] ∧
        Written (ctx.channel config) target files outputs (.ok ()) ∧ r = some (.ok ())) ∨
      ∃ error, Written (ctx.channel config) target files trace (.error error) ∧
        r = some (.error error) := by
  unfold finish
  rw [runs_run_bind]
  constructor
  · rintro (⟨_, outputs, rest, rfl, houtputs, hrest⟩ | ⟨error, houtputs, rfl⟩ | ⟨houtputs, -⟩)
    · obtain ⟨result, heq, hwritten⟩ := runs_writeOutputs.1 houtputs
      obtain rfl := Option.some.inj heq
      obtain ⟨⟨⟩, rest, rfl, hend⟩ := runs_ask.1 (runs_note.1 hrest)
      obtain ⟨rfl, rfl⟩ := runs_done.1 hend
      exact .inl ⟨outputs, rfl, hwritten, rfl⟩
    · obtain ⟨result, heq, hwritten⟩ := runs_writeOutputs.1 houtputs
      obtain rfl := Option.some.inj heq
      exact .inr ⟨error, hwritten, rfl⟩
    · obtain ⟨_, heq, -⟩ := runs_writeOutputs.1 houtputs
      cases heq
  · rintro (⟨outputs, rfl, hwritten, rfl⟩ | ⟨error, hwritten, rfl⟩)
    · exact .inl ⟨(), outputs, _, rfl, runs_writeOutputs.2 ⟨_, rfl, hwritten⟩,
        runs_run_log_bind.2 (.ask _ (.done _))⟩
    · exact .inr (.inl ⟨error, runs_writeOutputs.2 ⟨_, rfl, hwritten⟩, rfl⟩)

theorem gather_eq (includeGuest : Bool) :
    gather ctx config dir includeGuest = (do
      let stamp ← Program.call .timestamp
      ExceptT.adapt .io (Program.call (.createDirectory (bundleDirectory dir stamp))).outcome
      let info ← Attempt.asAction (Program.call (.report config.name)).outcome
      writeFile (Text.joinPath (bundleDirectory dir stamp) "vm-info.txt") info
      finish ctx config (bundleDirectory dir stamp) (listed includeGuest)) := by
  cases includeGuest <;> rfl

theorem runs_gather (includeGuest : Bool) :
    Runs (gather ctx config dir includeGuest).run trace r ↔
      ∃ result, r = some result ∧ Gathered ctx config dir (listed includeGuest) trace result := by
  rw [gather_eq]
  constructor
  · intro run
    obtain ⟨stamp, rest, rfl, hcreate⟩ := runs_ask.1 run
    obtain ⟨reply, rest, rfl, hreport⟩ := runs_ask.1 hcreate
    rcases reply with error | ⟨⟩
    · obtain ⟨rfl, rfl⟩ := runs_done.1 hreport
      exact ⟨_, rfl, .noDirectory stamp error⟩
    obtain ⟨reply, rest, rfl, hinfo⟩ := runs_ask.1 hreport
    rcases reply with fault | info
    · obtain ⟨rfl, rfl⟩ := runs_done.1 hinfo
      exact ⟨_, rfl, .noReport stamp fault⟩
    obtain ⟨reply, rest, rfl, hfinish⟩ := runs_ask.1 hinfo
    rcases reply with error | ⟨⟩
    · obtain ⟨rfl, rfl⟩ := runs_done.1 hfinish
      exact ⟨_, rfl, .noInfo stamp info error⟩
    rcases runs_finish.1 hfinish with ⟨outputs, rfl, hwritten, rfl⟩ | ⟨error, hwritten, rfl⟩
    · exact ⟨_, rfl, .complete stamp info hwritten⟩
    · exact ⟨_, rfl, .stopped stamp info hwritten⟩
  · rintro ⟨result, rfl, h⟩
    cases h with
    | noDirectory stamp error => exact .ask _ (.ask _ (.done _))
    | noReport stamp fault => exact .ask _ (.ask _ (.ask _ (.done _)))
    | noInfo stamp info error => exact .ask _ (.ask _ (.ask _ (.ask _ (.done _))))
    | stopped stamp info hwritten =>
        exact .ask _ (.ask _ (.ask _ (.ask _ (runs_finish.2 (.inr ⟨_, hwritten, rfl⟩)))))
    | complete stamp info hwritten =>
        exact .ask _ (.ask _ (.ask _ (.ask _ (runs_finish.2 (.inl ⟨_, rfl, hwritten, rfl⟩)))))

/-! ## Runs that nothing hinders -/

/-- An answer that a collection cannot go on from. -/
inductive Hinders : Exchange → Prop
  | createDirectory (path : String) (error : IoError) :
      Hinders ⟨.createDirectory path, .error error⟩
  | report (name : String) (fault : Fault) : Hinders ⟨.report name, .error fault⟩
  | writeFile (path content : String) (error : IoError) :
      Hinders ⟨.writeFile path content, .error error⟩

/-- The loop over these commands, where each one gives what `reply` says and all can be
written. -/
def outputs (channel : Channel) (target : String) (reply : String → Except Fault String)
    (files : List (String × String)) : List Exchange :=
  files.flatMap fun f =>
    [⟨.commandOutput f.2 channel, reply f.2⟩,
     ⟨.writeFile (Text.joinPath target f.1) (fileText f.2 (reply f.2)), .ok ()⟩]

/-- A whole collection that nothing hinders. -/
def bundleTrace (ctx : Context) (config : VmConfig) (dir : String)
    (files : List (String × String)) (stamp info : String)
    (reply : String → Except Fault String) : List Exchange :=
  let target := bundleDirectory dir stamp
  opening config target stamp (.ok info) ++
    (⟨.writeFile (Text.joinPath target "vm-info.txt") info, .ok ()⟩ ::
      (outputs (ctx.channel config) target reply files ++ [closing target]))

variable {channel : Channel} {reply : String → Except Fault String}
  {result : Except LifecycleError Unit}

theorem outputs_congr {other : String → Except Fault String}
    (h : ∀ f ∈ files, reply f.2 = other f.2) :
    outputs channel target reply files = outputs channel target other files := by
  unfold outputs
  refine List.flatMap_congr fun f hf => ?_
  rw [h f hf]

theorem written_outputs (files : List (String × String)) :
    Written channel target files (outputs channel target reply files) (.ok ()) := by
  induction files with
  | nil => exact .nil
  | cons f files ih => exact .cons (reply f.2) ih

/-- Commands that differ can be told apart by what they gave. -/
theorem Written.exists_reply (h : Written channel target files trace result)
    (hok : result = .ok ()) (hfiles : (files.map Prod.snd).Nodup) :
    ∃ reply, trace = outputs channel target reply files := by
  induction h with
  | nil => exact ⟨fun _ => .ok "", rfl⟩
  | refused => cases hok
  | @cons file command files rest result given _ ih =>
      obtain ⟨hcommand, hfiles⟩ := List.nodup_cons.1 hfiles
      obtain ⟨reply, rfl⟩ := ih hok hfiles
      refine ⟨Function.update reply command given, ?_⟩
      have hrest : outputs channel target reply files =
          outputs channel target (Function.update reply command given) files := by
        refine outputs_congr fun f hf => ?_
        have hne : f.2 ≠ command := fun heq => hcommand (List.mem_map.2 ⟨f, hf, heq⟩)
        exact (Function.update_of_ne hne given reply).symm
      rw [hrest]
      simp [outputs]

/-- All that the loop does is to run commands and to write files. -/
inductive OfOutput (channel : Channel) : Exchange → Prop
  | command (command : String) (reply : Except Fault String) :
      OfOutput channel ⟨.commandOutput command channel, reply⟩
  | file (path content : String) (reply : Except IoError Unit) :
      OfOutput channel ⟨.writeFile path content, reply⟩

theorem Written.ofOutput (h : Written channel target files trace result) :
    ∀ x ∈ trace, OfOutput channel x := by
  induction h with
  | nil => simp
  | refused reply error => simp [OfOutput.command, OfOutput.file]
  | cons reply _ ih => simpa [OfOutput.command, OfOutput.file] using ih

/-- The loop fails only at a file that cannot be written. -/
theorem Written.hinders_iff (h : Written channel target files trace result) :
    (∀ x ∈ trace, ¬ Hinders x) ↔ result = .ok () := by
  induction h with
  | nil => simp
  | @refused file command _ reply error =>
      have hfile := Hinders.writeFile (Text.joinPath target file) (fileText command reply) error
      simp [hfile]
  | @cons file command files rest result reply _ ih =>
      have hcommand : ¬ Hinders ⟨.commandOutput command channel, reply⟩ := nofun
      have hfile : ¬ Hinders
          ⟨.writeFile (Text.joinPath target file) (fileText command reply), .ok ()⟩ := nofun
      simp [hcommand, hfile, ih]

theorem Gathered.hinders_iff (h : Gathered ctx config dir files trace result) :
    (∀ x ∈ trace, ¬ Hinders x) ↔ result = .ok () := by
  have hstamp (stamp : String) : ¬ Hinders ⟨.timestamp, stamp⟩ := nofun
  have hdirectory (path : String) : ¬ Hinders ⟨.createDirectory path, .ok ()⟩ := nofun
  have hreport (info : String) : ¬ Hinders ⟨.report config.name, .ok info⟩ := nofun
  have hinfo (path info : String) : ¬ Hinders ⟨.writeFile path info, .ok ()⟩ := nofun
  have hclosing (target : String) : ¬ Hinders (closing target) := nofun
  cases h with
  | noDirectory stamp error => simp [Hinders.createDirectory]
  | noReport stamp fault => simp [opening, Hinders.report]
  | noInfo stamp info error => simp [Hinders.writeFile]
  | stopped stamp info hwritten =>
      have hrest := hwritten.hinders_iff
      simp only [reduceCtorEq, iff_false] at hrest ⊢
      exact fun hall => hrest fun x hx => hall x (by simp [hx])
  | complete stamp info hwritten =>
      have hrest := hwritten.hinders_iff.2 rfl
      simp only [opening, List.mem_append, List.mem_cons, List.not_mem_nil, or_false, iff_true]
      rintro x ((rfl | rfl | rfl) | rfl | hx | rfl)
      exacts [hstamp _, hdirectory _, hreport _, hinfo _ _, hrest x hx, hclosing _]

/-- The collections that succeed, from commands that differ. -/
theorem gathered_ok_iff (hfiles : (files.map Prod.snd).Nodup) :
    Gathered ctx config dir files trace (.ok ()) ↔
      ∃ stamp info reply, trace = bundleTrace ctx config dir files stamp info reply := by
  constructor
  · rintro (_ | _ | _ | _ | ⟨stamp, info, hwritten⟩)
    obtain ⟨reply, rfl⟩ := hwritten.exists_reply rfl hfiles
    exact ⟨stamp, info, reply, rfl⟩
  · rintro ⟨stamp, info, reply, rfl⟩
    exact .complete stamp info (written_outputs files)

theorem Gathered.tells_iff (h : Gathered ctx config dir files trace result) :
    (∃ text, ⟨.tell text, ()⟩ ∈ trace) ↔ result = .ok () := by
  cases h with
  | noDirectory | noReport | noInfo => simp [opening]
  | @stopped stamp info outputs error hwritten =>
      have hrest (text : String) : ⟨.tell text, ()⟩ ∉ outputs := fun hx =>
        nomatch hwritten.ofOutput _ hx
      simp [opening, hrest]
  | @complete stamp info outputs hwritten =>
      have hclosing : closing (bundleDirectory dir stamp) ∈
          outputs ++ [closing (bundleDirectory dir stamp)] := by simp
      exact iff_of_true ⟨_, List.mem_append_right _ (.tail _ hclosing)⟩ rfl

/-- Where the report fails, nothing has been asked of the guest, said or written. -/
theorem Gathered.of_report (h : Gathered ctx config dir files trace result) {fault : Fault}
    (hreport : ⟨.report config.name, .error fault⟩ ∈ trace) :
    result = .error (.vm fault) ∧ ∀ x ∈ trace, x.call.channel? = none ∧
      (∀ text, x.call ≠ .tell text) ∧ ∀ path content, x.call ≠ .writeFile path content := by
  have hnone {channel : Channel} {target : String} {written : List Exchange}
      {result : Except LifecycleError Unit}
      (hwritten : Written channel target files written result) :
      ⟨.report config.name, .error fault⟩ ∉ written := fun hx =>
    nomatch hwritten.ofOutput _ hx
  cases h with
  | noDirectory | noInfo => simp [opening] at hreport
  | noReport stamp fault' =>
      obtain rfl : fault = fault' := by simpa [opening] using hreport
      simp [opening, Call.channel?]
  | stopped stamp info hwritten => simp [opening, hnone hwritten] at hreport
  | complete stamp info hwritten => simp [opening, closing, hnone hwritten] at hreport

/-! ## What a bundle holds -/

/-- What the files of the host hold, by their paths. -/
abbrev Files := String → Option String

/-- The files after one more exchange. What a write that failed has left is not followed. -/
def Files.after (files : Files) : Exchange → Files
  | ⟨.writeFile path content, .ok _⟩ => Function.update files path (some content)
  | _ => files

/-- The entries of a bundle, by their names. -/
def entries (files : List (String × String)) (info : String)
    (reply : String → Except Fault String) : List (String × String) :=
  ("vm-info.txt", info) :: files.map fun f => (f.1, fileText f.2 (reply f.2))

/-- The files once each of these entries is written below `target`. -/
def stored (target : String) : List (String × String) → Files → Files
  | [], before => before
  | (name, text) :: entries, before =>
    stored target entries (Function.update before (Text.joinPath target name) (some text))

variable {before : Files} {name path : String}

theorem joinPath_inj {other : String} :
    Text.joinPath dir name = Text.joinPath dir other ↔ name = other := by
  unfold Text.joinPath
  split <;> simp

theorem stored_joinPath {entries : List (String × String)} (h : (entries.map Prod.fst).Nodup) :
    stored target entries before (Text.joinPath target name) =
      (entries.lookup name).or (before (Text.joinPath target name)) := by
  induction entries generalizing before with
  | nil => rfl
  | cons e entries ih =>
      obtain ⟨first, text⟩ := e
      obtain ⟨hfirst, h⟩ := List.nodup_cons.1 h
      rw [stored, ih h]
      by_cases heq : name = first
      · have hnone : entries.lookup name = none := by
          rw [List.lookup_eq_none_iff]
          rintro p hp
          exact bne_iff_ne.2 fun hname => hfirst (List.mem_map.2 ⟨p, hp, hname.symm.trans heq⟩)
        rw [hnone, heq, Function.update_self, List.lookup_cons_self]
        rfl
      · rw [Function.update_of_ne (joinPath_inj.not.2 heq), List.lookup_cons, beq_false_of_ne heq]

theorem stored_of_ne {entries : List (String × String)}
    (h : ∀ name, path ≠ Text.joinPath target name) :
    stored target entries before path = before path := by
  induction entries generalizing before with
  | nil => rfl
  | cons e entries ih =>
      rw [stored, ih, Function.update_of_ne (h e.1)]

theorem foldl_after_outputs (files : List (String × String)) :
    (outputs channel target reply files).foldl Files.after before =
      stored target (files.map fun f => (f.1, fileText f.2 (reply f.2))) before := by
  induction files generalizing before with
  | nil => rfl
  | cons f files ih => exact ih

theorem foldl_after_bundleTrace (stamp info : String) :
    (bundleTrace ctx config dir files stamp info reply).foldl Files.after before =
      stored (bundleDirectory dir stamp) (entries files info reply) before := by
  unfold bundleTrace
  rw [List.foldl_append, List.foldl_cons, List.foldl_append]
  exact foldl_after_outputs files

theorem filter_channel_outputs (files : List (String × String)) :
    (outputs channel target reply files).filter (·.call.channel?.isSome) =
      files.map fun f => ⟨.commandOutput f.2 channel, reply f.2⟩ := by
  induction files with
  | nil => rfl
  | cons f files ih => exact congrArg (_ :: ·) ih

theorem filter_channel_bundleTrace (stamp info : String) :
    (bundleTrace ctx config dir files stamp info reply).filter (·.call.channel?.isSome) =
      files.map fun f => ⟨.commandOutput f.2 (ctx.channel config), reply f.2⟩ := by
  unfold bundleTrace
  simp only [List.filter_append, List.filter_cons, filter_channel_outputs]
  simp [opening, closing, Call.channel?]

/-- A collection that has brought a whole bundle to `target`. -/
structure Completes (ctx : Context) (config : VmConfig) (target : String)
    (files : List (String × String)) (info : String) (reply : String → Except Fault String)
    (trace : List Exchange) : Prop where
  /-- The guest is asked for exactly these commands, once each and in this order. -/
  asks : trace.filter (·.call.channel?.isSome) =
    files.map fun f => ⟨.commandOutput f.2 (ctx.channel config), reply f.2⟩
  reports : ⟨.report config.name, .ok info⟩ ∈ trace
  announces : ∀ text, ⟨.tell text, ()⟩ ∈ trace ↔ text = "Debug logs written to " ++ target
  /-- A directory that was empty holds exactly the entries of the bundle. -/
  holds : ∀ before : Files, (∀ name, before (Text.joinPath target name) = none) →
    ∀ name, trace.foldl Files.after before (Text.joinPath target name) =
      (entries files info reply).lookup name
  /-- What is not in the directory is left as it was. -/
  spares : ∀ (before : Files) (path : String), (∀ name, path ≠ Text.joinPath target name) →
    trace.foldl Files.after before path = before path

theorem entries_names (info : String) :
    (entries files info reply).map Prod.fst = "vm-info.txt" :: files.map Prod.fst := by
  simp [entries]

theorem completes_bundleTrace (h : ("vm-info.txt" :: files.map Prod.fst).Nodup)
    (stamp info : String) :
    Completes ctx config (bundleDirectory dir stamp) files info reply
      (bundleTrace ctx config dir files stamp info reply) where
  asks := filter_channel_bundleTrace stamp info
  reports := List.mem_append_left _ (by simp [opening])
  announces text := by
    have hrest : ⟨.tell text, ()⟩ ∉
        outputs (ctx.channel config) (bundleDirectory dir stamp) reply files := fun hx =>
      nomatch (written_outputs files).ofOutput _ hx
    simp [bundleTrace, opening, closing, hrest]
  holds before hempty name := by
    rw [foldl_after_bundleTrace, stored_joinPath (entries_names info ▸ h), hempty, Option.or_none]
  spares before path hpath := by
    rw [foldl_after_bundleTrace, stored_of_ne hpath]

theorem runs_debugLogs {phase : Phase}
    (hphase : (phase, files) ∈
      [(.running, diagnostics), (.unprovisioned, diagnostics), (.recoverable, [])]) :
    Runs (Snapshot.debugLogs ctx dir (.existing phase config)).run trace r ↔
      ∃ result, r = some result ∧ Gathered ctx config dir files trace result := by
  simp only [List.mem_cons, Prod.mk.injEq, List.not_mem_nil, or_false] at hphase
  obtain ⟨rfl, rfl⟩ | ⟨rfl, rfl⟩ | ⟨rfl, rfl⟩ := hphase
  · exact runs_gather true
  · exact runs_gather true
  · exact runs_gather false

/-- A bundle is complete, whatever the commands of the guest give. A collection succeeds exactly
if its directory can be made, its report is given and its files can be written, and only then the
closing message is said. It has then asked the guest for each of its commands once, in their
order, and an empty directory holds the report and, for each command, the file of what it gave.
Where the report fails, that is the result, and nothing was asked of the guest, said or written. -/
theorem debug_bundle_is_complete {phase : Phase} {files : List (String × String)}
    (hphase : (phase, files) ∈
      [(.running, diagnostics), (.unprovisioned, diagnostics), (.recoverable, [])])
    (ctx : Context) (config : VmConfig) (dir : String) :
    let collect : Program (Except LifecycleError Unit) :=
      (Snapshot.debugLogs ctx dir (.existing phase config)).run
    (∀ trace, Runs collect trace (some (.ok ())) ↔
        ∃ stamp info reply, trace = bundleTrace ctx config dir files stamp info reply) ∧
      (∀ stamp info reply, Completes ctx config (bundleDirectory dir stamp) files info reply
        (bundleTrace ctx config dir files stamp info reply)) ∧
      ∀ trace r, Runs collect trace r →
        ((∀ x ∈ trace, ¬ Hinders x) ↔ r = some (.ok ())) ∧
        ((∃ text, ⟨.tell text, ()⟩ ∈ trace) ↔ r = some (.ok ())) ∧
        ∀ fault, ⟨.report config.name, .error fault⟩ ∈ trace →
          r = some (.error (.vm fault)) ∧ ∀ x ∈ trace, x.call.channel? = none ∧
            (∀ text, x.call ≠ .tell text) ∧ ∀ path content, x.call ≠ .writeFile path content := by
  have hfiles : files = diagnostics ∨ files = [] := by
    simp only [List.mem_cons, Prod.mk.injEq, List.not_mem_nil, or_false] at hphase
    tauto
  have hcommands : (files.map Prod.snd).Nodup := by
    obtain rfl | rfl := hfiles <;> decide
  have hnames : ("vm-info.txt" :: files.map Prod.fst).Nodup := by
    obtain rfl | rfl := hfiles <;> decide
  refine ⟨fun trace => ?_, fun stamp info reply => completes_bundleTrace hnames stamp info,
    fun trace r run => ?_⟩
  · rw [runs_debugLogs hphase, ← gathered_ok_iff hcommands]
    simp
  · obtain ⟨result, rfl, hgathered⟩ := (runs_debugLogs hphase).1 run
    simp only [Option.some.injEq]
    exact ⟨hgathered.hinders_iff, hgathered.tells_iff, fun fault => hgathered.of_report⟩

/-- A guest in which one command fails. -/
theorem debug_bundle_is_complete_without_reset_log :
    let ctx : Context := ⟨.defaults ⟨[]⟩, .builtIn⟩
    let config : VmConfig :=
      ⟨"pcfdev-v1", ⟨192, 168, 11, 11⟩, "local.pcfdev.io", 2222, 4096, 2⟩
    let reply : String → Except Fault String := fun command =>
      if command = "sudo cat /var/pcfdev/reset.log" then .error (.ssh "exit status 1")
      else .ok ("output of " ++ command)
    let trace := bundleTrace ctx config "/tmp" diagnostics "20240101-120000" "report" reply
    ((Phase.unprovisioned, diagnostics) ∈
        [(.running, diagnostics), (.unprovisioned, diagnostics), (.recoverable, [])]) ∧
      Runs (Snapshot.debugLogs ctx "/tmp" (.existing .unprovisioned config)).run trace
        (some (.ok ())) ∧
      trace.foldl Files.after (fun _ => none)
          "/tmp/pcfdev-debug-20240101-120000/reset.log" =
        some "failed to run `sudo cat /var/pcfdev/reset.log`: ssh: exit status 1\n" ∧
      trace.foldl Files.after (fun _ => none)
          "/tmp/pcfdev-debug-20240101-120000/monit-summary.txt" =
        some "output of sudo /var/vcap/bosh/bin/monit summary" := by
  intro ctx config reply trace
  have hphase : (Phase.unprovisioned, diagnostics) ∈
      [(.running, diagnostics), (.unprovisioned, diagnostics), (.recoverable, [])] := by simp
  obtain ⟨hok, hcompletes, -⟩ := debug_bundle_is_complete hphase ctx config "/tmp"
  have hholds := (hcompletes "20240101-120000" "report" reply).holds (fun _ => none) fun _ => rfl
  exact ⟨hphase, (hok trace).2 ⟨_, _, _, rfl⟩, hholds "reset.log", hholds "monit-summary.txt"⟩

end VmLifecycle.DebugBundle
