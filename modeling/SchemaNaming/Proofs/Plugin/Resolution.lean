import SchemaNaming.Proofs.Plugin.Attributes
import SchemaNaming.Proofs.Plugin.Growth

/-!
What a resolution ends in: an instance that implements the contract, a fault that carries the
descriptor, or one of a few failures that pass. What plugin code raises is the cause of such a fault,
unless it stops the program or a look-up of an attribute raises it.
-/

namespace SchemaNaming

/-- The text that faults carry for a descriptor: without the blanks around it, unless there is nothing
else. -/
def Descriptor.carried (s : String) : String :=
  if (Text.strip s.toList).isEmpty then s else Text.stripped s

theorem Descriptor.ofText_error (parsed : ofText s = .error fault) :
    ∃ typeName reason, fault = .typeNotFound (carried s) typeName reason := by
  simp only [ofText] at parsed
  split at parsed
  · rename_i none
    rw [carried, if_pos none]
    exact ⟨_, _, (Except.error.inj parsed).symm⟩
  · rename_i some
    rw [carried, if_neg some]
    split at parsed
    · exact ⟨_, _, (Except.error.inj parsed).symm⟩
    · split at parsed
      · exact ⟨_, _, (Except.error.inj parsed).symm⟩
      · split at parsed
        · exact ⟨_, _, (Except.error.inj parsed).symm⟩
        · contradiction

namespace Plugin

variable {d : Descriptor} {slot : Slot}

/-- The host in which an assembly's file executes: its module is the newest and stands in the table. -/
def enteredHost (path file : String) (search : Option (List String)) (h : Host) : Host :=
  let name := (Assembly.path path).moduleName
  let (id, r) := h.plugins.addModule { name, file := some file, search, isNamed := false }
  { h with plugins := { r with table := r.table.bind name id } }

end Plugin

end SchemaNaming
