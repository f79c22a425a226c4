import VmLifecycle.Proofs.Effect.Changes
import VmLifecycle.Proofs.Guest.Shell
import VmLifecycle.Proofs.Json.RoundTrip
import VmLifecycle.Proofs.Text.Cutting

/-!
# Storing the options in a guest

The command that stores the options is read by the guest's shell as a pipeline
that writes their JSON text and a newline to the options file, whatever text the
options hold. What is printed from such a file is read as the same options.
-/

namespace VmLifecycle

/-! ## Reading what was stored -/

namespace ProvisionOptions

theorem decode_encode_options (options : ProvisionOptions) :
    Json.decode (Json.encode options) = .ok options :=
  Json.decode_encode (by decide) options

/-- The options are read from their JSON text with any blanks around it. -/
theorem ofStored_encode (options : ProvisionOptions) (before after : List Char)
    (hbefore : ∀ c ∈ before, Text.isBlank c = true)
    (hafter : ∀ c ∈ after, Text.isBlank c = true) :
    ofStored (String.ofList before ++ Json.encode options ++ String.ofList after) =
      .ok (some options) := by
  obtain ⟨members, hmembers⟩ : ∃ members,
      (Json.encode options).toList = '{' :: members ++ ['}'] :=
    ⟨_, String.toList_ofList⟩
  have htrim : Text.trim (String.ofList before ++ Json.encode options ++ String.ofList after) =
      Json.encode options := by
    refine Text.isTrimmed_iff.1
      ⟨⟨String.ofList before, String.ofList after, ?_, ?_, rfl⟩, ?_, ?_⟩
    · rwa [Text.IsBlank, String.toList_ofList]
    · rwa [Text.IsBlank, String.toList_ofList]
    · rw [hmembers]
      rintro c ⟨⟩
      decide
    · rw [hmembers, List.getLast?_concat]
      rintro c ⟨⟩
      decide
  have hne : (Json.encode options).isEmpty = false := by
    rw [Bool.eq_false_iff, ne_eq, String.isEmpty_iff, ← String.toList_inj, hmembers]
    simp
  unfold ofStored
  simp only [htrim, hne, Bool.false_eq_true, if_false, decode_encode_options]
  rfl

end ProvisionOptions

/-- The options are read from the line that `echo` makes of their JSON text. -/
theorem Provision.ofStored_stored {options : ProvisionOptions} :
    ProvisionOptions.ofStored (Json.encode options ++ "\n") = .ok (some options) := by
  have hblank : ∀ c ∈ ['\n'], Text.isBlank c = true := by
    intro c hc
    rw [List.mem_singleton.1 hc]
    rfl
  have hencode := ProvisionOptions.ofStored_encode options [] ['\n'] (by simp) hblank
  simpa using hencode

/-! ## The command -/

namespace Guest

open Shell

/-- What a command writes to the options file, by the meaning of `echo`, of
`tee` and of the two operators. -/
def writesOptions? (command : String) : Option String :=
  match tokens? command with
  | some [.word "echo", .word text, .operator '|', .word "sudo", .word "tee", .word file,
      .operator '>', .word "/dev/null"] =>
    if file = optionsPath then some (text ++ "\n") else none
  | _ => none

theorem tokens?_storeOptionsCommand (options : ProvisionOptions) :
    tokens? (storeOptionsCommand options) =
      some [.word "echo", .word (Json.encode options), .operator '|', .word "sudo", .word "tee",
        .word optionsPath, .operator '>', .word "/dev/null"] := by
  have hecho : scan? ⟨[], .between⟩ "echo ".toList = some ⟨[.word "echo"], .between⟩ := by
    rfl
  have hrest (word : List Char) :
      scan? ⟨[.word "echo"], .bare word⟩
          (" | sudo tee ".toList ++ optionsPath.toList ++ " > /dev/null".toList) =
        some ⟨[.operator '>', .word optionsPath, .word "tee", .word "sudo", .operator '|',
          .word (String.ofList word.reverse), .word "echo"], .bare "/dev/null".toList.reverse⟩ := by
    rfl
  unfold tokens? storeOptionsCommand
  simp only [String.toList_append, List.append_assoc] at hrest ⊢
  rw [scan?_append hecho, scan?_append (scan?_singleQuoted _), hrest]
  simp [Scan.finish?, Scan.endWord]

theorem writesOptions?_storeOptionsCommand (options : ProvisionOptions) :
    writesOptions? (storeOptionsCommand options) = some (Json.encode options ++ "\n") := by
  unfold writesOptions?
  rw [tokens?_storeOptionsCommand]
  rfl

/-- Options of any text survive the shell and come back unchanged. The command is
read as one pipeline, in which their JSON text is a single word, so no character
of it ends the quotes. Options are read from this text with any blanks around
it, and so from the file, where `echo` has added a newline. -/
theorem stored_options_come_back (options : ProvisionOptions) :
    tokens? (storeOptionsCommand options) =
        some [.word "echo", .word (Json.encode options), .operator '|', .word "sudo",
          .word "tee", .word "/var/pcfdev/provision-options.json", .operator '>',
          .word "/dev/null"] ∧
      (∀ before after : String, (∀ c ∈ before.toList, Text.isBlank c = true) →
        (∀ c ∈ after.toList, Text.isBlank c = true) →
        ProvisionOptions.ofStored (before ++ Json.encode options ++ after) =
          .ok (some options)) ∧
      ∃ text, writesOptions? (storeOptionsCommand options) = some text ∧
        ProvisionOptions.ofStored text = .ok (some options) := by
  have hread (before after : String) (hbefore : ∀ c ∈ before.toList, Text.isBlank c = true)
      (hafter : ∀ c ∈ after.toList, Text.isBlank c = true) :
      ProvisionOptions.ofStored (before ++ Json.encode options ++ after) = .ok (some options) := by
    rw [← String.ofList_toList (s := before), ← String.ofList_toList (s := after)]
    exact ProvisionOptions.ofStored_encode options _ _ hbefore hafter
  exact ⟨tokens?_storeOptionsCommand options, hread, _,
    writesOptions?_storeOptionsCommand options, Provision.ofStored_stored⟩

/-- A quote, a backslash, a line break and a blank in the options, and blanks of
several kinds around their text. -/
theorem stored_options_with_quotes_come_back :
    let options : ProvisionOptions :=
      ⟨"it's.local", "192.168.11.11", "a\\'\n\"b", ["o'neil:5000", " \u00A0"]⟩
    (∀ c ∈ "\t\u00A0".toList, Text.isBlank c = true) ∧
      (∀ c ∈ "\u2028 \n".toList, Text.isBlank c = true) ∧
      ProvisionOptions.ofStored ("\t\u00A0" ++ Json.encode options ++ "\u2028 \n") =
        .ok (some options) := by
  intro options
  have hbefore : ∀ c ∈ "\t\u00A0".toList, Text.isBlank c = true := List.all_eq_true.1 (by decide)
  have hafter : ∀ c ∈ "\u2028 \n".toList, Text.isBlank c = true := List.all_eq_true.1 (by decide)
  obtain ⟨-, hread, -⟩ := stored_options_come_back options
  exact ⟨hbefore, hafter, hread _ _ hbefore hafter⟩

/-- A command that begins with another word than `echo` does not write the
options, whatever comes after its first words. -/
theorem writesOptions?_front_append {front text : String} {later : List Token}
    (htext : text ≠ "echo")
    (hfront : scan? ⟨[], .between⟩ front.toList = some ⟨later ++ [.word text], .between⟩)
    (rest : String) : writesOptions? (front ++ rest) = none := by
  unfold writesOptions?
  split
  · rename_i htokens
    have hhead := head?_tokens hfront htokens
    simp only [List.head?_cons, Option.some.injEq, Token.word.injEq] at hhead
    exact absurd hhead.symm htext
  · rfl

theorem writesOptions?_provisionCommand (options : ProvisionOptions) :
    writesOptions? (provisionCommand options) = none := by
  have hfront : scan? ⟨[], .between⟩ "sudo -H ".toList =
      some ⟨[.word "-H"] ++ [.word "sudo"], .between⟩ := by
    rfl
  have hcommand : ∃ rest, provisionCommand options = "sudo -H " ++ rest := by
    unfold provisionCommand
    simp only [String.append_assoc]
    exact ⟨_, rfl⟩
  obtain ⟨rest, hrest⟩ := hcommand
  rw [hrest]
  exact writesOptions?_front_append (by decide) hfront rest

theorem scan?_if : scan? ⟨[], .between⟩ "if ".toList = some ⟨[] ++ [.word "if"], .between⟩ := by
  rfl

theorem writesOptions?_printMarkerCommand :
    writesOptions? printMarkerCommand = none := by
  have hcommand : printMarkerCommand =
      "if " ++ ("[ -e " ++ markerPath ++ " ]; then echo " ++ provisionedToken ++ "; fi") := by
    rfl
  rw [hcommand]
  exact writesOptions?_front_append (by decide) scan?_if _

theorem writesOptions?_printOptionsCommand :
    writesOptions? printOptionsCommand = none := by
  have hcommand : printOptionsCommand =
      "if " ++ ("[ -f " ++ optionsPath ++ " ]; then sudo cat " ++ optionsPath ++ "; fi") := by
    rfl
  rw [hcommand]
  exact writesOptions?_front_append (by decide) scan?_if _

/-- This one is an `echo`, but into another program than `tee`. -/
theorem writesOptions?_installPasswordCommand :
    writesOptions? installPasswordCommand = none := by
  decide +kernel

/-! ## What the file holds -/

/-- What is known to be in the options file after one more exchange. A command
that failed in writing it may have left anything there. -/
def optionsAfter (file? : Option String) (x : Exchange) : Option String :=
  match x.call with
  | .execute command _ => written command
  | .commandOutput command _ => written command
  | .register _ _ => none
  | .unregister _ => none
  | _ => file?
where
  written (command : String) : Option String :=
    match writesOptions? command with
    | some text => if x.fault? = none then some text else none
    | none => file?

/-- A guest that keeps what was last written to the options file: when the file
is printed and it is known what it holds, that is what is printed. -/
def Remembers : Option String → List Exchange → Prop
  | _, [] => True
  | file?, x :: trace =>
    (∀ channel output text, x = ⟨.commandOutput printOptionsCommand channel, .ok output⟩ →
      file? = some text → output = text) ∧ Remembers (optionsAfter file? x) trace

theorem remembers_append {file? : Option String} {first second : List Exchange} :
    Remembers file? (first ++ second) ↔
      Remembers file? first ∧ Remembers (first.foldl optionsAfter file?) second := by
  induction first generalizing file? with
  | nil => simp [Remembers]
  | cons x first ih => simp only [List.cons_append, Remembers, List.foldl_cons, ih, and_assoc]

/-- An exchange after which the options file holds what it held. -/
def SparesOptions (x : Exchange) : Prop :=
  ∀ file?, optionsAfter file? x = file?

theorem foldl_optionsAfter {trace : List Exchange} (h : ∀ x ∈ trace, SparesOptions x)
    (file? : Option String) : trace.foldl optionsAfter file? = file? := by
  induction trace generalizing file? with
  | nil => rfl
  | cons x trace ih =>
      rw [List.foldl_cons, h x (by simp), ih fun y hy => h y (by simp [hy])]

theorem sparesOptions_execute {command : String} (h : writesOptions? command = none)
    (channel : Channel) (reply : Except Fault Unit) :
    SparesOptions ⟨.execute command channel, reply⟩ := by
  intro file?
  simp only [optionsAfter, optionsAfter.written, h]

theorem sparesOptions_commandOutput {command : String} (h : writesOptions? command = none)
    (channel : Channel) (reply : Except Fault String) :
    SparesOptions ⟨.commandOutput command channel, reply⟩ := by
  intro file?
  simp only [optionsAfter, optionsAfter.written, h]

def printsOptions : Call → Bool
  | .commandOutput command _ => command = printOptionsCommand
  | _ => false

/-- Where the options file is not printed, any guest will do. -/
theorem remembers_of_printsOptions {trace : List Exchange}
    (h : ∀ x ∈ trace, printsOptions x.call = false) (file? : Option String) :
    Remembers file? trace := by
  induction trace generalizing file? with
  | nil => trivial
  | cons x trace ih =>
      refine ⟨?_, ih (fun y hy => h y (by simp [hy])) _⟩
      rintro channel output text rfl
      have hprints : printsOptions (.commandOutput printOptionsCommand channel) = false :=
        h _ List.mem_cons_self
      simp [printsOptions] at hprints

end Guest

end VmLifecycle
