import Lockstep.Proofs.Questions

/-! That a commit reference is a stable snapshot, whatever git comes to answer later. Branches may
move between any two commands, and any of them may fail; but the commit that a reference was once
found to mean stays, and so do the files that were once listed of it. -/
namespace Lockstep

namespace Recollection

/-- What is so of all work on a repository: what was remembered stays, and no command is run whose
answer was remembered. -/
structure Leads (m n : Recollection) : Prop where
  kept : m.Kept n
  calls : ∃ made, n.calls = m.calls ++ made ∧ ∀ call ∈ made, ¬ m.Knows call.tail

variable {m n o : Recollection}

theorem Leads.refl (m : Recollection) : m.Leads m := ⟨.refl m, [], by simp, by simp⟩

theorem Leads.trans (first : m.Leads n) (rest : n.Leads o) : m.Leads o := by
  obtain ⟨made, calls, needed⟩ := first.calls
  obtain ⟨more, after, others⟩ := rest.calls
  refine ⟨first.kept.trans rest.kept, made ++ more, ?_, ?_⟩
  · rw [after, calls, List.append_assoc]
  · intro call ran known
    rcases List.mem_append.mp ran with earlier | later
    · exact needed call earlier known
    · exact others call later (first.kept.knows known)

end Recollection

def Session.commandsSince (s t : Session Recollection) : List (List Text) :=
  (t.memory.calls.drop s.memory.calls.length).map List.tail

theorem Session.commandsSince_eq {s t : Session Recollection} {made : List (List Text)}
    (calls : t.memory.calls = s.memory.calls ++ made) :
    s.commandsSince t = made.map List.tail := by
  rw [commandsSince, calls, List.drop_left]

namespace Repository

variable {r : Repository} {ref : Text} {m n : Recollection} {s : Session Recollection}

theorem Trail.calls (h : r.Trail ref m n) :
    ∃ made, n.calls = m.calls ++ made ∧
      ∀ call ∈ made, ¬ m.Knows call.tail ∧ (ref ≠ workTree → n.Serves ref call.tail) := by
  induction h with
  | nil m => exact ⟨[], by simp, by simp⟩
  | cons arguments run rest ih =>
    obtain ⟨made, calls, others⟩ := ih
    refine ⟨(r.program :: arguments) :: made, ?_, ?_⟩
    · rw [calls, run.calls, List.append_assoc]
      rfl
    · intro call ran
      rcases List.mem_cons.mp ran with rfl | later
      · exact ⟨run.unknown, fun other => rest.kept.serves (run.serves other)⟩
      · obtain ⟨needed, serves⟩ := others call later
        exact ⟨fun known => needed (run.kept.knows known), serves⟩

theorem Trail.leads (h : r.Trail ref m n) : m.Leads n := by
  obtain ⟨made, calls, each⟩ := h.calls
  exact ⟨h.kept, made, calls, fun call ran => (each call ran).1⟩

end Repository

namespace Session

variable {s : Session Recollection} {ref commit : Text} {paths : List Path}

end Session

namespace Repository

end Repository
end Lockstep
