import Lockstep.Proofs.Faults

/-! What can become of a directive. It opens, declares or closes a region, or it bears a fault, or
it opens or closes a list that came to nothing and whose declaring line bears the fault. Within a
stretch every directive has such a fate. -/
namespace Lockstep.Scan

variable {implicitClose : Bool} {line : Nat}

section Fates

variable (lines : List (Reading × Nat))

/-- Whether an opening line waits at a later line: no declaring line stands between the two. -/
def Waits (opened later : Nat) : Prop :=
  (.opens, opened) ∈ lines ∧ opened < later ∧
    ∀ r n, (r, n) ∈ lines → opened < n → n < later → r.isDeclaration = false

/-- Whether a line opens what is declared at another: of the opening lines that wait there, it is
the first. -/
def OpensFor (opened declared : Nat) : Prop :=
  Waits lines opened declared ∧ ∀ n, Waits lines n declared → opened ≤ n

/-- Whether a line closes the list that is declared at another: only lines of the list stand between
the two. -/
def ClosesFor (implicitClose : Bool) (declared closing : Nat) : Prop :=
  (.closes, closing) ∈ lines ∧ declared < closing ∧
    ∀ r n, (r, n) ∈ lines → declared < n → n < closing → r.staysInList implicitClose = true

structure Abandoned (events : List Event) (opened declared : Nat) : Prop where
  declares : (.declaresList, declared) ∈ lines
  opens : OpensFor lines opened declared
  fault : (faultLines events).count declared = 1

end Fates

inductive Fate where
  | opensRegion
  | declaresRegion
  | closesRegion
  | bearsFault
  | opensAbandoned
  | closesAbandoned
deriving DecidableEq

/-- Whether a line has a fate, given the events of all lines. A region begins behind its opening
line, and a closing line is the one behind a region with a list. -/
def Fate.Holds (implicitClose : Bool) (lines : List (Reading × Nat)) (events : List Event)
    (n : Nat) : Fate → Prop
  | .opensRegion => ∃ b ∈ blocks events, n + 1 = b.firstLine
  | .declaresRegion => ∃ b ∈ blocks events, b.firstLine ≤ n ∧ n ≤ b.lastLine ∧
      ∃ r, (r, n) ∈ lines ∧ r.isDeclaration = true
  | .closesRegion => ∃ b ∈ blocks events, n = b.lastLine + 1 ∧
      ∃ declared, (.declaresList, declared) ∈ lines ∧ b.firstLine ≤ declared ∧
        declared ≤ b.lastLine ∧ ClosesFor lines implicitClose declared n
  | .bearsFault => (faultLines events).count n = 1
  | .opensAbandoned => ∃ declared, Abandoned lines events n declared
  | .closesAbandoned => ∃ opened declared, Abandoned lines events opened declared ∧
      ClosesFor lines implicitClose declared n

/-- What a stretch comes to. What is declared gives a region, or a fault if it is a list; a list
ends with a closing line, or before a line that does not belong to it. -/
inductive Form (implicitClose : Bool) (line : Nat) :
    List Reading → Option Reading → List Event → Prop where
  | lone {reading next} (stays : reading ≠ .opens) :
      Form implicitClose line [reading] next (stepIdle line reading).2
  | undeclared {body} (plain : ∀ r ∈ body, r.isDeclaration = false) :
      Form implicitClose line (.opens :: body) none
        (strays (line + 1) body ++ [.fault line .neverDeclared])
  | declared {body list tail next} (declaring : Reading) (event : Event)
      (plain : ∀ r ∈ body, r.isDeclaration = false) (declares : declaring.isDeclaration = true)
      (stay : ∀ r ∈ list, r.staysInList implicitClose = true)
      (ended : tail = list ++ [.closes] ∧ declaring = .declaresList ∨
        tail = list ∧ (declaring = .declaresList → ∀ r ∈ next, r.breaksList implicitClose = true))
      (result : (∃ b : Block, event = .block b ∧ b.firstLine = line + 1 ∧
          b.lastLine = line + 1 + body.length + list.length) ∨
        declaring = .declaresList ∧ ∃ fault, event = .fault (line + 1 + body.length) fault) :
      Form implicitClose line (.opens :: (body ++ declaring :: tail)) next
        (strays (line + 1) body ++ [event])

theorem finishList_result (opened declared : Nat) (entries : List Entry) (last : Nat) :
    (∃ b : Block, finishList opened declared entries last = .block b ∧
        b.firstLine = opened + 1 ∧ b.lastLine = last) ∨
      ∃ fault, finishList opened declared entries last = .fault declared fault := by
  cases entries with
  | nil => exact .inr ⟨_, rfl⟩
  | cons e rest => exact .inl ⟨_, rfl, rfl, rfl⟩

theorem breakList_result {list : List Reading}
    (stay : ∀ r ∈ list, r.staysInList implicitClose = true) (opened declared : Nat) :
    (∃ b : Block, breakList implicitClose opened declared (entriesOf (declared + 1) list) = .block b ∧
        b.firstLine = opened + 1 ∧ b.lastLine = declared + list.length) ∨
      ∃ fault, breakList implicitClose opened declared (entriesOf (declared + 1) list) =
        .fault declared fault := by
  cases implicitClose with
  | false => exact .inr ⟨_, rfl⟩
  | true =>
    rw [breakList, if_pos rfl, last_entriesOf stay]
    exact finishList_result _ _ _ _

theorem Stretch.form {front : List Reading} {next : Option Reading} {events : List Event}
    (h : Stretch implicitClose line front next events) :
    Form implicitClose line front next events := by
  cases h with
  | outside stays => exact .lone stays
  | inline target plain =>
    have none : ∀ r ∈ ([] : List Reading), r.staysInList implicitClose = true := by simp
    exact .declared _ _ plain rfl none (.inr ⟨rfl, by simp⟩) (.inl ⟨_, rfl, rfl, rfl⟩)
  | closed plain stay =>
    exact .declared _ _ plain rfl stay (.inl ⟨rfl, rfl⟩)
      ((finishList_result _ _ _ _).imp id fun fault => ⟨rfl, fault⟩)
  | @broken body list _ plain stay breaks =>
    have result := breakList_result stay line (line + 1 + body.length)
    rw [show line + 1 + body.length + 1 = line + 2 + body.length by omega] at result
    exact .declared _ _ plain rfl stay (.inr ⟨rfl, fun _ => breaks⟩)
      (result.imp id fun fault => ⟨rfl, fault⟩)
  | undeclared plain => exact .undeclared plain

theorem mem_zipIdx_region {body tail : List Reading} {declaring r : Reading} {n : Nat} :
    (r, n) ∈ (.opens :: (body ++ declaring :: tail)).zipIdx line ↔
      r = .opens ∧ n = line ∨ (r, n) ∈ body.zipIdx (line + 1) ∨
        r = declaring ∧ n = line + 1 + body.length ∨
          (r, n) ∈ tail.zipIdx (line + 2 + body.length) := by
  rw [List.zipIdx_cons, List.zipIdx_append, List.zipIdx_cons,
    show line + 1 + body.length + 1 = line + 2 + body.length by omega]
  simp

theorem bounds_of_mem_zipIdx {readings : List Reading} {r : Reading} {n : Nat}
    (h : (r, n) ∈ readings.zipIdx line) : line ≤ n ∧ n < line + readings.length ∧ r ∈ readings :=
  ⟨List.le_snd_of_mem_zipIdx h, List.snd_lt_add_of_mem_zipIdx h, List.fst_mem_of_mem_zipIdx h⟩

theorem eq_of_mem_zipIdx {readings : List Reading} {r s : Reading} {n : Nat}
    (h₁ : (r, n) ∈ readings.zipIdx line) (h₂ : (s, n) ∈ readings.zipIdx line) : r = s := by
  have first := List.mk_mem_zipIdx_iff_le_and_getElem?_sub.mp h₁
  have second := List.mk_mem_zipIdx_iff_le_and_getElem?_sub.mp h₂
  exact Option.some.inj (first.2.symm.trans second.2)

theorem bounds_of_mem_strays {body : List Reading} {n : Nat}
    (h : n ∈ faultLines (strays line body)) : line ≤ n ∧ n < line + body.length := by
  rcases mem_faultLines_strays.mp h with h | h
  · exact ⟨(bounds_of_mem_zipIdx h).1, (bounds_of_mem_zipIdx h).2.1⟩
  · exact ⟨(bounds_of_mem_zipIdx h).1, (bounds_of_mem_zipIdx h).2.1⟩

theorem isSource_of_staysInList {r : Reading} (h : r.staysInList implicitClose = true) :
    r.isSource = true := by
  cases r <;> simp_all [Reading.staysInList, Reading.isSource]

theorem isSource_or_closes_of_ended {declaring r : Reading} {list tail : List Reading} {P : Prop}
    {n : Nat} (stay : ∀ r ∈ list, r.staysInList implicitClose = true)
    (ended : tail = list ++ [.closes] ∧ declaring = .declaresList ∨ tail = list ∧ P)
    (h : (r, n) ∈ tail.zipIdx line) :
    r.isSource = true ∨ r = .closes ∧ n = line + list.length ∧ declaring = .declaresList ∧
      tail = list ++ [.closes] := by
  rcases ended with ⟨rfl, lists⟩ | ⟨rfl, -⟩
  · rw [List.zipIdx_append, List.mem_append] at h
    rcases h with h | h
    · exact .inl (isSource_of_staysInList (stay r (bounds_of_mem_zipIdx h).2.2))
    · simp only [List.zipIdx_cons, List.zipIdx_nil, List.mem_singleton, Prod.mk.injEq] at h
      exact .inr ⟨h.1, h.2, lists, rfl⟩
  · exact .inl (isSource_of_staysInList (stay r (bounds_of_mem_zipIdx h).2.2))

theorem not_mem_of_undeclared {body : List Reading} (plain : ∀ r ∈ body, r.isDeclaration = false)
    {n : Nat} : (.declaresList, n) ∉ (Reading.opens :: body).zipIdx line := by
  intro lists
  rcases List.mem_cons.mp (bounds_of_mem_zipIdx lists).2.2 with same | inBody
  · cases same
  · cases plain _ inBody

namespace Form

variable {front : List Reading} {next : Option Reading} {events : List Event}

theorem settled (h : Form implicitClose line front next events) (followed : next ≠ none) :
    ∀ n, (.opens, n) ∈ front.zipIdx line →
      ∃ r k, (r, k) ∈ front.zipIdx line ∧ n < k ∧ r.isDeclaration = true := by
  intro n hn
  cases h with
  | lone stays => simp_all
  | undeclared plain => exact absurd rfl followed
  | @declared body list tail _ declaring event plain declares stay ended result =>
    refine ⟨declaring, line + 1 + body.length,
      mem_zipIdx_region.mpr (.inr (.inr (.inl ⟨rfl, rfl⟩))), ?_, declares⟩
    rcases mem_zipIdx_region.mp hn with ⟨-, rfl⟩ | hn | ⟨same, -⟩ | hn
    · omega
    · exact (bounds_of_mem_zipIdx hn).2.1
    · rw [← same] at declares
      cases declares
    · rcases isSource_or_closes_of_ended stay ended hn with source | ⟨closes, -⟩
      · cases source
      · cases closes

theorem fault_of_block (h : Form implicitClose line front next events) {b : Block}
    (hb : b ∈ blocks events) {n : Nat} (hn : n ∈ faultLines events) :
    b.firstLine ≤ n ∧ n ≤ b.lastLine ∧
      ((.opens, n) ∈ front.zipIdx line ∨ (.closes, n) ∈ front.zipIdx line) := by
  cases h with
  | lone stays => simp at hb
  | undeclared plain => simp at hb
  | @declared body list tail _ declaring event plain declares stay ended result =>
    rcases result with ⟨own, rfl, first, last⟩ | ⟨-, fault, rfl⟩
    · obtain rfl : b = own := by simpa using hb
      have stray : n ∈ faultLines (strays (line + 1) body) := by simpa using hn
      have inside := bounds_of_mem_strays stray
      refine ⟨by omega, by omega, (mem_faultLines_strays.mp stray).imp ?_ ?_⟩
      · exact fun h => mem_zipIdx_region.mpr (.inr (.inl h))
      · exact fun h => mem_zipIdx_region.mpr (.inr (.inl h))
    · simp at hb

theorem declared_eq {body list tail : List Reading} {declaring : Reading} {P : Prop} {n : Nat}
    (plain : ∀ r ∈ body, r.isDeclaration = false)
    (stay : ∀ r ∈ list, r.staysInList implicitClose = true)
    (ended : tail = list ++ [.closes] ∧ declaring = .declaresList ∨ tail = list ∧ P)
    (h : (.declaresList, n) ∈ (.opens :: (body ++ declaring :: tail)).zipIdx line) :
    declaring = .declaresList ∧ n = line + 1 + body.length := by
  rcases mem_zipIdx_region.mp h with ⟨same, -⟩ | inBody | ⟨rfl, here⟩ | behind
  · cases same
  · cases plain _ (bounds_of_mem_zipIdx inBody).2.2
  · exact ⟨rfl, here⟩
  · rcases isSource_or_closes_of_ended stay ended behind with source | ⟨closes, -⟩
    · cases source
    · cases closes

theorem fault_of_list (h : Form implicitClose line front next events)
    (opens : front.head? = some .opens) {declared : Nat}
    (lists : (.declaresList, declared) ∈ front.zipIdx line) {n : Nat}
    (hn : n ∈ faultLines events) : line < n ∧ n ≤ declared := by
  cases h with
  | lone stays => simp_all
  | undeclared plain => exact absurd lists (not_mem_of_undeclared plain)
  | @declared body list tail _ declaring event plain declares stay ended result =>
    obtain ⟨-, rfl⟩ := declared_eq plain stay ended lists
    rw [faultLines_append, List.mem_append] at hn
    rcases hn with stray | last
    · have inside := bounds_of_mem_strays stray
      omega
    · rcases result with ⟨own, rfl, -, -⟩ | ⟨-, fault, rfl⟩
      · simp at last
      · simp only [faultLines_fault, faultLines_nil, List.mem_singleton] at last
        omega

theorem closing_lt (h : Form implicitClose line front next events)
    (opens : front.head? = some .opens) {rest : List Reading} (behind : next = rest.head?)
    {declared closing : Nat} (lists : (.declaresList, declared) ∈ front.zipIdx line)
    (closes : ClosesFor ((front ++ rest).zipIdx line) implicitClose declared closing) :
    closing < line + front.length := by
  obtain ⟨closed, -, between⟩ := closes
  refine Nat.lt_of_not_le fun beyond => ?_
  cases h with
  | lone stays => simp_all
  | undeclared plain => exact absurd lists (not_mem_of_undeclared plain)
  | @declared body list tail _ declaring event plain declares stay ended result =>
    obtain ⟨rfl, rfl⟩ := declared_eq plain stay ended lists
    rcases ended with ⟨rfl, -⟩ | ⟨rfl, breaks⟩
    · -- The closing line of the stretch would stand between the two and belong to the list.
      have own : (.closes, line + 2 + body.length + list.length) ∈
          (Reading.opens :: (body ++ .declaresList :: (list ++ [.closes])) ++ rest).zipIdx line := by
        rw [List.zipIdx_append]
        apply List.mem_append_left
        exact mem_zipIdx_region.mpr (.inr (.inr (.inr (by simp [List.zipIdx_append]))))
      simp only [List.length_cons, List.length_append, List.length_nil] at beyond
      cases between _ _ own (by omega) (by omega)
    · -- The next line does not belong to the list and does not close it.
      cases rest with
      | nil =>
        rw [List.append_nil] at closed
        have := (bounds_of_mem_zipIdx closed).2.1
        omega
      | cons x rest =>
        have stands : (x, line + (Reading.opens :: (body ++ .declaresList :: tail)).length) ∈
            (Reading.opens :: (body ++ .declaresList :: tail) ++ x :: rest).zipIdx line := by
          rw [List.zipIdx_append]
          apply List.mem_append_right
          simp
        have apart : x.breaksList implicitClose = true := breaks rfl x (by simp [behind])
        simp only [List.length_cons, List.length_append] at stands beyond
        rcases Nat.lt_or_eq_of_le beyond with later | here
        · have stays := between _ _ stands (by omega) later
          simp [Reading.breaksList, stays] at apart
        · rw [here] at stands
          rw [eq_of_mem_zipIdx stands closed] at apart
          simp [Reading.breaksList] at apart

theorem waits_opening {body tail : List Reading} {declaring : Reading}
    (plain : ∀ r ∈ body, r.isDeclaration = false) :
    Waits ((.opens :: (body ++ declaring :: tail)).zipIdx line) line (line + 1 + body.length) := by
  refine ⟨by simp, by omega, ?_⟩
  intro r n mem above below
  rcases mem_zipIdx_region.mp mem with ⟨-, rfl⟩ | inBody | ⟨-, rfl⟩ | behind
  · omega
  · exact plain r (bounds_of_mem_zipIdx inBody).2.2
  · omega
  · have := (bounds_of_mem_zipIdx behind).1
    omega

theorem opensFor_opening {body tail : List Reading} {declaring : Reading}
    (plain : ∀ r ∈ body, r.isDeclaration = false) :
    OpensFor ((.opens :: (body ++ declaring :: tail)).zipIdx line) line (line + 1 + body.length) :=
  ⟨waits_opening plain, fun _ waits => (bounds_of_mem_zipIdx waits.1).1⟩

theorem closesFor_closing {body list : List Reading} {declaring : Reading}
    (stay : ∀ r ∈ list, r.staysInList implicitClose = true) :
    ClosesFor ((.opens :: (body ++ declaring :: (list ++ [.closes]))).zipIdx line) implicitClose
      (line + 1 + body.length) (line + 2 + body.length + list.length) := by
  refine ⟨mem_zipIdx_region.mpr (.inr (.inr (.inr (by simp [List.zipIdx_append])))), by omega, ?_⟩
  intro r n mem above below
  rcases mem_zipIdx_region.mp mem with ⟨-, rfl⟩ | inBody | ⟨-, rfl⟩ | behind
  · omega
  · have := (bounds_of_mem_zipIdx inBody).2.1
    omega
  · omega
  · rw [List.zipIdx_append, List.mem_append] at behind
    rcases behind with listed | last
    · exact stay r (bounds_of_mem_zipIdx listed).2.2
    · have := (bounds_of_mem_zipIdx last).1
      omega

theorem exists_fate (h : Form implicitClose line front next events)
    (nodup : (faultLines events).Nodup) {r : Reading} {n : Nat}
    (mem : (r, n) ∈ front.zipIdx line) (directive : r.isSource = false) :
    ∃ fate : Fate, fate.Holds implicitClose (front.zipIdx line) events n := by
  have once {k : Nat} (reported : k ∈ faultLines events) : (faultLines events).count k = 1 := by
    rw [nodup.count, if_pos reported]
  have bears (reported : n ∈ faultLines events) :
      ∃ fate : Fate, fate.Holds implicitClose (front.zipIdx line) events n :=
    ⟨.bearsFault, once reported⟩
  cases h with
  | @lone reading _ stays =>
    obtain ⟨rfl, rfl⟩ : r = reading ∧ n = line := by simpa using mem
    apply bears
    cases r <;> simp_all [stepIdle, Reading.isSource]
  | @undeclared body plain =>
    apply bears
    simp only [List.zipIdx_cons, List.mem_cons, Prod.mk.injEq] at mem
    simp only [faultLines_append, List.mem_append, mem_faultLines_strays]
    rcases mem with ⟨-, rfl⟩ | mem
    · simp
    · have := plain r (bounds_of_mem_zipIdx mem).2.2
      cases r <;> simp_all [Reading.isSource, Reading.isDeclaration]
  | @declared body list tail _ declaring event plain declares stay ended result =>
    have listed (lists : declaring = .declaresList) :
        (.declaresList, line + 1 + body.length) ∈
          (.opens :: (body ++ declaring :: tail)).zipIdx line :=
      mem_zipIdx_region.mpr (.inr (.inr (.inl ⟨lists.symm, rfl⟩)))
    have abandoned (lists : declaring = .declaresList) (fault : AnnotationFault)
        (reported : event = .fault (line + 1 + body.length) fault) :
        Abandoned ((.opens :: (body ++ declaring :: tail)).zipIdx line)
          (strays (line + 1) body ++ [event]) line (line + 1 + body.length) :=
      ⟨listed lists, opensFor_opening plain, once (by simp [reported])⟩
    rcases mem_zipIdx_region.mp mem with ⟨-, rfl⟩ | inBody | ⟨rfl, rfl⟩ | behind
    · rcases result with ⟨b, rfl, first, -⟩ | ⟨lists, fault, reported⟩
      · exact ⟨.opensRegion, b, by simp, first.symm⟩
      · exact ⟨.opensAbandoned, _, abandoned lists fault reported⟩
    · apply bears
      have := plain r (bounds_of_mem_zipIdx inBody).2.2
      simp only [faultLines_append, List.mem_append, mem_faultLines_strays]
      cases r <;> simp_all [Reading.isSource, Reading.isDeclaration]
    · rcases result with ⟨b, rfl, first, last⟩ | ⟨-, fault, rfl⟩
      · exact ⟨.declaresRegion, b, by simp, by omega, by omega, r, mem, declares⟩
      · exact bears (by simp)
    · rcases isSource_or_closes_of_ended stay ended behind with source | ⟨rfl, rfl, lists, rfl⟩
      · simp [source] at directive
      · rcases result with ⟨b, rfl, first, last⟩ | ⟨-, fault, reported⟩
        · exact ⟨.closesRegion, b, by simp, by omega, _, listed lists, by omega, by omega,
            closesFor_closing stay⟩
        · exact ⟨.closesAbandoned, _, _, abandoned lists fault reported, closesFor_closing stay⟩

theorem head?_of_block (h : Form implicitClose line front next events) {b : Block}
    (hb : b ∈ blocks events) : front.head? = some .opens := by
  cases h with
  | lone stays => simp at hb
  | undeclared plain => rfl
  | declared => rfl

theorem head?_of_list (h : Form implicitClose line front next events) {declared : Nat}
    (lists : (.declaresList, declared) ∈ front.zipIdx line) (behind : line < declared) :
    front.head? = some .opens := by
  cases h with
  | lone stays =>
    simp only [List.zipIdx_cons, List.zipIdx_nil, List.mem_singleton, Prod.mk.injEq] at lists
    omega
  | undeclared plain => rfl
  | declared => rfl

theorem opensFor (h : Form implicitClose line front next events)
    (opens : front.head? = some .opens) {declared : Nat}
    (lists : (.declaresList, declared) ∈ front.zipIdx line) :
    OpensFor (front.zipIdx line) line declared := by
  cases h with
  | lone stays => simp_all
  | undeclared plain => exact absurd lists (not_mem_of_undeclared plain)
  | declared declaring event plain declares stay ended result =>
    obtain ⟨-, rfl⟩ := declared_eq plain stay ended lists
    exact opensFor_opening plain

end Form

end Lockstep.Scan
