import VmLifecycle.Effect.Program

/-!
# Consent to a shortage of memory

A VM that needs more memory than the host has free is started only if the user
agrees.
-/

namespace VmLifecycle.Memory

def question (required : UInt64) : String :=
  "Less than " ++ String.ofList (Text.decimal required.toNat) ++
    " MB of free memory detected, continue (y/N): "

/-- Goes on if the host has the memory, or if the user agrees to go on without. -/
def ensure (required : UInt64) : Action Unit := do
  let free ← Attempt.asAction (Program.call .freeMemory).outcome
  if required ≤ free then return ()
  else
    Program.log (.warn "Insufficient free memory"
      [("required_mb", .number required.toNat), ("free_mb", .number free.toNat)])
    if ← Program.call (.consent (question required)) then return ()
    else throw .declined

end VmLifecycle.Memory
