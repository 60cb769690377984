import Lockstep.Proofs.Stretches

/-! The regions among the events of a scan. Each is made of lines that stand together right behind
an opening line, and what it declares can be read off from these lines alone. -/
namespace Lockstep.Scan

variable {implicitClose : Bool} {line : Nat}

section Events

variable (events more : List Event)

@[simp] theorem blocks_nil : blocks [] = [] := rfl

@[simp] theorem errors_nil : errors [] = [] := rfl

@[simp] theorem blocks_block (b : Block) : blocks (.block b :: events) = b :: blocks events := rfl

@[simp] theorem errors_block (b : Block) : errors (.block b :: events) = errors events := rfl

@[simp] theorem blocks_fault (line : Nat) (fault : AnnotationFault) :
    blocks (.fault line fault :: events) = blocks events := rfl

@[simp] theorem errors_fault (line : Nat) (fault : AnnotationFault) :
    errors (.fault line fault :: events) = { line, fault } :: errors events := rfl

@[simp] theorem blocks_append : blocks (events ++ more) = blocks events ++ blocks more :=
  List.filterMap_append

@[simp] theorem errors_append : errors (events ++ more) = errors events ++ errors more :=
  List.filterMap_append

end Events

@[simp] theorem blocks_strays (body : List Reading) : blocks (strays line body) = [] := by
  fun_induction strays line body <;> simp_all

@[simp] theorem blocks_stepIdle (reading : Reading) : blocks (stepIdle line reading).2 = [] := by
  cases reading <;> rfl

def declarations (line : Nat) : List Reading → List Entry
  | [] => []
  | .declares target :: _ => [⟨target, line⟩]
  | .declaresList :: list => entriesOf (line + 1) list
  | _ :: rest => declarations (line + 1) rest

def blockOf (line : Nat) (own : List Reading) : Block :=
  { firstLine := line, lastLine := line + own.length - 1, entries := declarations line own }

theorem declarations_append {body : List Reading} (plain : ∀ r ∈ body, r.isDeclaration = false)
    (tail : List Reading) :
    declarations line (body ++ tail) = declarations (line + body.length) tail := by
  induction body generalizing line with
  | nil => rfl
  | cons reading body ih =>
    have rest := @ih (line + 1) fun r hr => plain r (by simp [hr])
    have head := plain reading (by simp)
    rw [Nat.add_assoc, Nat.add_comm 1] at rest
    cases reading <;> simp_all [declarations, Reading.isDeclaration]

theorem declarations_list (line : Nat) {body : List Reading}
    (plain : ∀ r ∈ body, r.isDeclaration = false) (list : List Reading) :
    declarations (line + 1) (body ++ .declaresList :: list) =
      entriesOf (line + 2 + body.length) list := by
  rw [declarations_append plain, declarations]
  congr 1
  omega

section Entries

def Entry.below (above : Nat) (e : Entry) : Entry := { e with line := above + e.line }

theorem entriesOf_below (above : Nat) (list : List Reading) :
    entriesOf (above + line) list = (entriesOf line list).map (Entry.below above) := by
  induction list generalizing line with
  | nil => rfl
  | cons reading list ih =>
    have tail := @ih (line + 1)
    cases reading <;> simp_all [entriesOf, Entry.below, Nat.add_assoc]

/-- Where a region's targets stand among its lines does not depend on where the region stands. -/
theorem declarations_below (above : Nat) (own : List Reading) :
    declarations (above + line) own = (declarations line own).map (Entry.below above) := by
  induction own generalizing line with
  | nil => rfl
  | cons reading own ih =>
    have tail := @ih (line + 1)
    cases reading <;>
      simp_all [declarations, Entry.below, Nat.add_assoc, ← entriesOf_below]

theorem mem_entriesOf {e : Entry} {list : List Reading} (h : e ∈ entriesOf line list) :
    line ≤ e.line ∧ e.line < line + list.length ∧ .entry e.target ∈ list := by
  induction list generalizing line with
  | nil => simp [entriesOf] at h
  | cons reading list ih =>
    have tail : e ∈ entriesOf (line + 1) list →
        line ≤ e.line ∧ e.line < line + (list.length + 1) ∧ .entry e.target ∈ list := by
      intro he
      obtain ⟨low, high, named⟩ := ih he
      exact ⟨by omega, by omega, named⟩
    cases reading with
    | entry target =>
      rcases List.mem_cons.mp h with rfl | he
      · exact ⟨Nat.le_refl _, by simp, by simp⟩
      · obtain ⟨low, high, named⟩ := tail he
        exact ⟨low, high, by simp [named]⟩
    | _ =>
      obtain ⟨low, high, named⟩ := tail h
      exact ⟨low, high, by simp [named]⟩

theorem pairwise_entriesOf (list : List Reading) :
    (entriesOf line list).Pairwise fun a b => a.line < b.line := by
  induction list generalizing line with
  | nil => exact .nil
  | cons reading list ih =>
    cases reading with
    | entry target =>
      refine List.pairwise_cons.mpr ⟨fun e he => ?_, ih⟩
      have := (mem_entriesOf he).1
      dsimp only
      omega
    | _ => exact ih

theorem mem_declarations {e : Entry} {own : List Reading} (h : e ∈ declarations line own) :
    line ≤ e.line ∧ e.line < line + own.length ∧
      (.entry e.target ∈ own ∨ .declares e.target ∈ own) := by
  induction own generalizing line with
  | nil => simp [declarations] at h
  | cons reading own ih =>
    cases reading with
    | declares target =>
      simp only [declarations, List.mem_singleton] at h
      subst h
      exact ⟨Nat.le_refl _, by simp, .inr (by simp)⟩
    | declaresList =>
      obtain ⟨low, high, named⟩ := mem_entriesOf h
      simp only [List.length_cons]
      exact ⟨by omega, by omega, .inl (by simp [named])⟩
    | _ =>
      obtain ⟨low, high, named⟩ := ih h
      simp only [List.length_cons]
      refine ⟨by omega, by omega, named.imp ?_ ?_⟩ <;> exact List.mem_cons_of_mem _

theorem pairwise_declarations (own : List Reading) :
    (declarations line own).Pairwise fun a b => a.line < b.line := by
  induction own generalizing line with
  | nil => exact .nil
  | cons reading own ih =>
    cases reading with
    | declares target => exact List.pairwise_singleton _ _
    | declaresList => exact pairwise_entriesOf own
    | _ => exact ih

theorem last_entriesOf {list : List Reading} (stay : ∀ r ∈ list, r.staysInList true = true)
    (declared : Nat) :
    ((entriesOf (declared + 1) list).getLast?.map Entry.line).getD declared =
      declared + list.length := by
  induction list generalizing declared with
  | nil => rfl
  | cons reading list ih =>
    have tail := ih (fun r hr => stay r (by simp [hr])) (declared + 1)
    have head := stay reading (by simp)
    cases reading with
    | entry target =>
      rw [entriesOf, List.getLast?_cons, List.length_cons,
        show declared + (list.length + 1) = declared + 1 + list.length by omega, ← tail]
      cases (entriesOf (declared + 1 + 1) list).getLast? <;> rfl
    | _ => simp [Reading.staysInList] at head

end Entries

theorem blocks_finishList (opened declared last : Nat) (entries : List Entry) :
    blocks [finishList opened declared entries last] =
      if entries = [] then [] else [{ firstLine := opened + 1, lastLine := last, entries }] := by
  cases entries <;> rfl

theorem Stretch.blocks_eq {front : List Reading} {next : Option Reading} {events : List Event}
    (h : Stretch implicitClose line front next events) :
    blocks events = [] ∨ ∃ own behind, front = .opens :: (own ++ behind) ∧
      declarations (line + 1) own ≠ [] ∧ blocks events = [blockOf (line + 1) own] := by
  cases h with
  | outside stays => exact .inl (blocks_stepIdle _)
  | @inline body _ target plain =>
    refine .inr ⟨body ++ [.declares target], [], by simp, ?_, ?_⟩
    · simp [declarations_append plain, declarations]
    · simp only [blocks_append, blocks_strays, blocks_block, blocks_nil, List.nil_append, blockOf,
        declarations_append plain, declarations, List.length_append, List.length_singleton]
      rfl
  | @closed body list _ plain stay =>
    have named := declarations_list line plain list
    by_cases empty : entriesOf (line + 2 + body.length) list = []
    · exact .inl (by simp [blocks_finishList, empty])
    · refine .inr ⟨body ++ .declaresList :: list, [.closes], by simp, by rwa [named], ?_⟩
      simp only [blocks_append, blocks_strays, blocks_finishList, if_neg empty, blockOf, named,
        List.length_append, List.length_cons, List.nil_append]
      congr 2
      omega
  | @broken body list _ plain stay breaks =>
    have named := declarations_list line plain list
    cases implicitClose with
    | false => exact .inl (by simp [breakList])
    | true =>
      by_cases empty : entriesOf (line + 2 + body.length) list = []
      · exact .inl (by simp [breakList, blocks_finishList, empty])
      · refine .inr ⟨body ++ .declaresList :: list, [], by simp, by rwa [named], ?_⟩
        have last := last_entriesOf stay (line + 1 + body.length)
        rw [show line + 1 + body.length + 1 = line + 2 + body.length by omega] at last
        simp only [blocks_append, blocks_strays, breakList, if_true, blocks_finishList,
          if_neg empty, last, blockOf, named, List.length_append, List.length_cons,
          List.nil_append]
        congr 2
        omega
  | undeclared plain => exact .inl (by simp)

/-- A region that is made of lines right behind an opening one. -/
def Block.LiesIn (line : Nat) (readings : List Reading) (b : Block) : Prop :=
  ∃ before own after, readings = before ++ .opens :: (own ++ after) ∧
    declarations (line + before.length + 1) own ≠ [] ∧ b = blockOf (line + before.length + 1) own

theorem Block.LiesIn.append {rest : List Reading} {b : Block} (front : List Reading)
    (h : b.LiesIn (line + front.length) rest) : b.LiesIn line (front ++ rest) := by
  obtain ⟨before, own, after, rfl, declared, rfl⟩ := h
  refine ⟨front ++ before, own, after, by simp, ?_, ?_⟩
  · rwa [List.length_append, ← Nat.add_assoc]
  · rw [List.length_append, ← Nat.add_assoc]

theorem Block.LiesIn.firstLine_gt {readings : List Reading} {b : Block}
    (h : b.LiesIn line readings) : line < b.firstLine := by
  obtain ⟨before, own, after, _, _, rfl⟩ := h
  simp only [blockOf]
  omega

theorem Block.LiesIn.firstLine_le {readings : List Reading} {b : Block}
    (h : b.LiesIn line readings) : b.firstLine ≤ b.lastLine := by
  obtain ⟨before, own, after, _, declared, rfl⟩ := h
  cases own with
  | nil => simp [declarations] at declared
  | cons reading own =>
    simp only [blockOf, List.length_cons]
    omega

theorem Block.LiesIn.lastLine_lt {readings : List Reading} {b : Block}
    (h : b.LiesIn line readings) : b.lastLine < line + readings.length := by
  have ordered := h.firstLine_le
  obtain ⟨before, own, after, rfl, _, rfl⟩ := h
  simp only [blockOf, List.length_append, List.length_cons] at ordered ⊢
  omega

theorem Block.LiesIn.eq_blockOf {readings : List Reading} {b : Block} (h : b.LiesIn 1 readings) :
    b = blockOf b.firstLine ((readings.take b.lastLine).drop (b.firstLine - 1)) := by
  have ordered := h.firstLine_le
  obtain ⟨before, own, after, rfl, _, rfl⟩ := h
  simp only [blockOf] at ordered ⊢
  congr
  all_goals
    rw [show 1 + before.length + 1 + own.length - 1 = before.length + 1 + own.length by omega,
      show before ++ .opens :: (own ++ after) = (before ++ [.opens]) ++ own ++ after by simp,
      List.take_left' (by simp; omega), List.drop_left' (by simp; omega)]

theorem Stretch.liesIn {front : List Reading} {next : Option Reading} {events : List Event}
    (h : Stretch implicitClose line front next events) (rest : List Reading) :
    ∀ b ∈ blocks events, b.LiesIn line (front ++ rest) := by
  intro b hb
  rcases h.blocks_eq with none | ⟨own, behind, rfl, declared, one⟩
  · simp [none] at hb
  · rw [one, List.mem_singleton] at hb
    exact ⟨[], own, behind ++ rest, by simp, declared, hb⟩

namespace Division

variable {readings : List Reading} {events : List Event}

theorem liesIn (h : Division implicitClose line readings events) :
    ∀ b ∈ blocks events, b.LiesIn line readings := by
  induction h with
  | done => simp
  | @stretch _ front rest _ _ first _ ih =>
    intro b hb
    rw [blocks_append] at hb
    rcases List.mem_append.mp hb with hb | hb
    · exact first.liesIn rest b hb
    · exact (ih b hb).append front

theorem pairwise_blocks (h : Division implicitClose line readings events) :
    (blocks events).Pairwise fun a b => a.lastLine + 2 ≤ b.firstLine := by
  induction h with
  | done => exact .nil
  | @stretch line front rest _ _ first others ih =>
    rw [blocks_append]
    refine List.pairwise_append.mpr ⟨?_, ih, ?_⟩
    · rcases first.blocks_eq with none | ⟨_, _, _, _, one⟩
      · simp [none]
      · simp [one]
    · intro a ha b hb
      have behind := (others.liesIn b hb).firstLine_gt
      have within := (first.liesIn [] a ha).lastLine_lt
      rw [List.append_nil] at within
      omega

end Division
end Lockstep.Scan
