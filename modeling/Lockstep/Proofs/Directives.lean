import Mathlib.Logic.ExistsUnique
import Lockstep.Proofs.Fates
import Lockstep.Proofs.Prefilter

/-! No directive is passed over. Each line of a file belongs to a stretch, and what becomes of it
there is what becomes of it in the whole file; no directive has two fates. -/
namespace Lockstep.Scan

variable {implicitClose : Bool} {line : Nat}

/-- A stretch of a file with the lines before and behind it. What is found and reported at its lines
is its own, and no opening line before it waits any more. -/
structure StretchAt (implicitClose : Bool) (line : Nat) (readings : List Reading)
    (events : List Event) (before front rest : List Reading) (own : List Event) : Prop where
  readings_eq : readings = before ++ (front ++ rest)
  stretch : Stretch implicitClose (line + before.length) front rest.head? own
  settled : ∀ n, (.opens, n) ∈ before.zipIdx line →
    ∃ r k, (r, k) ∈ before.zipIdx line ∧ n < k ∧ r.isDeclaration = true
  fault_iff : ∀ n, line + before.length ≤ n → n < line + before.length + front.length →
    (n ∈ faultLines events ↔ n ∈ faultLines own)
  block_subset : blocks own ⊆ blocks events
  block_mem : ∀ b ∈ blocks events, line + before.length ≤ b.lastLine →
    b.firstLine ≤ line + before.length + front.length → b ∈ blocks own

theorem bounds_of_mem_directiveLines {readings : List Reading} {n : Nat}
    (h : n ∈ directiveLines line readings) : line ≤ n ∧ n < line + readings.length := by
  obtain ⟨r, mem, -⟩ := mem_directiveLines.mp h
  exact ⟨(bounds_of_mem_zipIdx mem).1, (bounds_of_mem_zipIdx mem).2.1⟩

theorem Division.bounds_of_mem_faultLines {readings : List Reading} {events : List Event}
    (h : Division implicitClose line readings events) {n : Nat} (hn : n ∈ faultLines events) :
    line ≤ n ∧ n < line + readings.length :=
  bounds_of_mem_directiveLines (h.faultLines_subperm.subset hn)

theorem Stretch.bounds_of_mem_faultLines {front : List Reading} {next : Option Reading}
    {events : List Event} (h : Stretch implicitClose line front next events) {n : Nat}
    (hn : n ∈ faultLines events) : line ≤ n ∧ n < line + front.length :=
  bounds_of_mem_directiveLines (h.faultLines_subperm.subset hn)

theorem Division.exists_stretchAt {readings : List Reading} {events : List Event}
    (h : Division implicitClose line readings events) {r : Reading} {n : Nat}
    (mem : (r, n) ∈ readings.zipIdx line) :
    ∃ before front rest own, StretchAt implicitClose line readings events before front rest own ∧
      (r, n) ∈ front.zipIdx (line + before.length) := by
  induction h with
  | done => simp at mem
  | @stretch line front rest events more first others ih =>
    rw [List.zipIdx_append, List.mem_append] at mem
    rcases mem with inFirst | inOthers
    · refine ⟨[], front, rest, events, ⟨rfl, first, by simp, ?_, by simp, ?_⟩, inFirst⟩
      · intro k low high
        have : k ∉ faultLines more := fun later => by
          have := (others.bounds_of_mem_faultLines later).1
          simp only [List.length_nil] at high
          omega
        simp [this]
      · intro b hb low high
        rw [blocks_append, List.mem_append] at hb
        refine hb.resolve_right fun later => ?_
        have := (others.liesIn b later).firstLine_gt
        simp only [List.length_nil] at high
        omega
    · obtain ⟨before, own, behind, ownEvents, place, inOwn⟩ := ih inOthers
      have followed : rest.head? ≠ none := by
        rw [Ne, List.head?_eq_none_iff]
        rintro rfl
        cases inOthers
      have start : line + (front ++ before).length = line + front.length + before.length := by
        rw [List.length_append, Nat.add_assoc]
      refine ⟨front ++ before, own, behind, ownEvents, ⟨?_, ?_, ?_, ?_, ?_, ?_⟩, ?_⟩
      · rw [List.append_assoc, place.readings_eq]
      · rw [start]
        exact place.stretch
      · intro k hk
        rw [List.zipIdx_append, List.mem_append] at hk
        simp only [List.zipIdx_append, List.mem_append]
        rcases hk with hk | hk
        · obtain ⟨d, j, hd, behind⟩ := first.form.settled followed k hk
          exact ⟨d, j, .inl hd, behind⟩
        · obtain ⟨d, j, hd, behind⟩ := place.settled k hk
          exact ⟨d, j, .inr hd, behind⟩
      · intro k low high
        rw [start] at low high
        rw [faultLines_append, List.mem_append, ← place.fault_iff k low high]
        refine or_iff_right fun earlier => ?_
        have := (first.bounds_of_mem_faultLines earlier).2
        omega
      · rw [blocks_append]
        exact List.Subset.trans place.block_subset (List.subset_append_right _ _)
      · intro b hb low high
        rw [start] at low high
        rw [blocks_append, List.mem_append] at hb
        refine place.block_mem b (hb.resolve_left fun earlier => ?_) low high
        have := (first.liesIn [] b earlier).lastLine_lt
        rw [List.append_nil] at this
        omega
      · rw [start]
        exact inOwn

namespace StretchAt

variable {readings before front rest : List Reading} {events own : List Event}

theorem mem_lines (place : StretchAt implicitClose line readings events before front rest own)
    {r : Reading} {n : Nat} (mem : (r, n) ∈ front.zipIdx (line + before.length)) :
    (r, n) ∈ readings.zipIdx line := by
  rw [place.readings_eq, List.zipIdx_append, List.zipIdx_append]
  simp [mem]

theorem mem_front (place : StretchAt implicitClose line readings events before front rest own)
    {r : Reading} {n : Nat} (mem : (r, n) ∈ readings.zipIdx line)
    (low : line + before.length ≤ n) (high : n < line + before.length + front.length) :
    (r, n) ∈ front.zipIdx (line + before.length) := by
  rw [place.readings_eq, List.zipIdx_append, List.zipIdx_append, List.mem_append,
    List.mem_append] at mem
  rcases mem with earlier | mem | later
  · have := (bounds_of_mem_zipIdx earlier).2.1
    omega
  · exact mem
  · have := (bounds_of_mem_zipIdx later).1
    omega

theorem le_of_waits (place : StretchAt implicitClose line readings events before front rest own)
    {opened later : Nat} (waits : Waits (readings.zipIdx line) opened later)
    (behind : line + before.length ≤ later) : line + before.length ≤ opened := by
  refine Nat.le_of_not_lt fun early => ?_
  obtain ⟨opens, -, plain⟩ := waits
  have earlier : (.opens, opened) ∈ before.zipIdx line := by
    rw [place.readings_eq, List.zipIdx_append, List.mem_append] at opens
    refine opens.resolve_right fun later => ?_
    have := (bounds_of_mem_zipIdx later).1
    omega
  obtain ⟨r, k, declares, above, declaration⟩ := place.settled opened earlier
  have below := (bounds_of_mem_zipIdx declares).2.1
  have among : (r, k) ∈ readings.zipIdx line := by
    rw [place.readings_eq, List.zipIdx_append]
    exact List.mem_append_left _ declares
  rw [plain r k among above (by omega)] at declaration
  cases declaration

theorem opensFor_iff (place : StretchAt implicitClose line readings events before front rest own)
    {opened declared : Nat} (low : line + before.length ≤ declared)
    (high : declared < line + before.length + front.length) :
    OpensFor (readings.zipIdx line) opened declared ↔
      OpensFor (front.zipIdx (line + before.length)) opened declared := by
  have waits_iff (n : Nat) : Waits (readings.zipIdx line) n declared ↔
      Waits (front.zipIdx (line + before.length)) n declared := by
    constructor
    · intro waits
      have start := place.le_of_waits waits low
      have ⟨opens, below, plain⟩ := waits
      exact ⟨place.mem_front opens start (by omega), below,
        fun r k mem => plain r k (place.mem_lines mem)⟩
    · rintro ⟨opens, below, plain⟩
      have start := (bounds_of_mem_zipIdx opens).1
      refine ⟨place.mem_lines opens, below, fun r k mem above later => ?_⟩
      exact plain r k (place.mem_front mem (by omega) (by omega)) above later
  unfold OpensFor
  simp only [waits_iff]

theorem closesFor_lines
    (place : StretchAt implicitClose line readings events before front rest own)
    {declared closing : Nat} (low : line + before.length ≤ declared)
    (closes : ClosesFor (front.zipIdx (line + before.length)) implicitClose declared closing) :
    ClosesFor (readings.zipIdx line) implicitClose declared closing := by
  obtain ⟨closed, below, between⟩ := closes
  have last := (bounds_of_mem_zipIdx closed).2.1
  refine ⟨place.mem_lines closed, below, fun r k mem above later => ?_⟩
  exact between r k (place.mem_front mem (by omega) (by omega)) above later

theorem closing_lt (place : StretchAt implicitClose line readings events before front rest own)
    (opens : front.head? = some .opens) {declared closing : Nat}
    (lists : (.declaresList, declared) ∈ front.zipIdx (line + before.length))
    (closes : ClosesFor (readings.zipIdx line) implicitClose declared closing) :
    closing < line + before.length + front.length := by
  have low := (bounds_of_mem_zipIdx lists).1
  obtain ⟨closed, below, between⟩ := closes
  rw [place.readings_eq, List.zipIdx_append] at closed between
  refine place.stretch.form.closing_lt opens rfl lists ⟨?_, below, fun r k mem => ?_⟩
  · refine (List.mem_append.mp closed).resolve_left fun earlier => ?_
    have := (bounds_of_mem_zipIdx earlier).2.1
    omega
  · exact between r k (List.mem_append_right _ mem)

theorem count_eq_one (place : StretchAt implicitClose line readings events before front rest own)
    (nodup : (faultLines events).Nodup) {n : Nat} (reported : (faultLines own).count n = 1) :
    (faultLines events).count n = 1 := by
  have mem : n ∈ faultLines own := List.count_pos_iff.mp (by omega)
  have ⟨low, high⟩ := place.stretch.bounds_of_mem_faultLines mem
  rw [nodup.count, if_pos ((place.fault_iff n low high).mpr mem)]

theorem abandoned (place : StretchAt implicitClose line readings events before front rest own)
    (nodup : (faultLines events).Nodup) {opened declared : Nat}
    (h : Abandoned (front.zipIdx (line + before.length)) own opened declared) :
    Abandoned (readings.zipIdx line) events opened declared := by
  obtain ⟨low, high, -⟩ := bounds_of_mem_zipIdx h.declares
  exact ⟨place.mem_lines h.declares, (place.opensFor_iff low high).mpr h.opens,
    place.count_eq_one nodup h.fault⟩

theorem holds (place : StretchAt implicitClose line readings events before front rest own)
    (nodup : (faultLines events).Nodup) {n : Nat} {fate : Fate}
    (h : fate.Holds implicitClose (front.zipIdx (line + before.length)) own n) :
    fate.Holds implicitClose (readings.zipIdx line) events n := by
  cases fate with
  | opensRegion =>
    obtain ⟨b, hb, first⟩ := h
    exact ⟨b, place.block_subset hb, first⟩
  | declaresRegion =>
    obtain ⟨b, hb, low, high, r, mem, declares⟩ := h
    exact ⟨b, place.block_subset hb, low, high, r, place.mem_lines mem, declares⟩
  | closesRegion =>
    obtain ⟨b, hb, last, declared, lists, low, high, closes⟩ := h
    exact ⟨b, place.block_subset hb, last, declared, place.mem_lines lists, low, high,
      place.closesFor_lines (bounds_of_mem_zipIdx lists).1 closes⟩
  | bearsFault => exact place.count_eq_one nodup h
  | opensAbandoned =>
    obtain ⟨declared, abandoned⟩ := h
    exact ⟨declared, place.abandoned nodup abandoned⟩
  | closesAbandoned =>
    obtain ⟨opened, declared, abandoned, closes⟩ := h
    exact ⟨opened, declared, place.abandoned nodup abandoned,
      place.closesFor_lines (bounds_of_mem_zipIdx abandoned.declares).1 closes⟩

end StretchAt

def Fate.Fits (r : Reading) : Fate → Prop
  | .opensRegion | .opensAbandoned => r = .opens
  | .declaresRegion => r.isDeclaration = true
  | .closesRegion | .closesAbandoned => r = .closes
  | .bearsFault => False

namespace Division

variable {readings : List Reading} {events : List Event}

theorem opens_of_block (h : Division implicitClose line readings events) {b : Block}
    (hb : b ∈ blocks events) {n : Nat} (first : n + 1 = b.firstLine) :
    (.opens, n) ∈ readings.zipIdx line := by
  obtain ⟨before, own, after, rfl, -, rfl⟩ := h.liesIn b hb
  obtain rfl : n = line + before.length := by
    simp only [blockOf] at first
    omega
  simp [List.zipIdx_append]

theorem fits_of_holds (h : Division implicitClose line readings events) {n : Nat} {fate : Fate}
    (other : fate ≠ .bearsFault)
    (holds : fate.Holds implicitClose (readings.zipIdx line) events n) :
    ∃ r, (r, n) ∈ readings.zipIdx line ∧ fate.Fits r := by
  cases fate with
  | opensRegion =>
    obtain ⟨b, hb, first⟩ := holds
    exact ⟨.opens, h.opens_of_block hb first, rfl⟩
  | declaresRegion =>
    obtain ⟨_, _, _, _, r, mem, declares⟩ := holds
    exact ⟨r, mem, declares⟩
  | closesRegion =>
    obtain ⟨_, _, _, _, _, _, _, closes⟩ := holds
    exact ⟨.closes, closes.1, rfl⟩
  | bearsFault => exact absurd rfl other
  | opensAbandoned =>
    obtain ⟨_, abandoned⟩ := holds
    exact ⟨.opens, abandoned.opens.1.1, rfl⟩
  | closesAbandoned =>
    obtain ⟨_, _, _, closes⟩ := holds
    exact ⟨.closes, closes.1, rfl⟩

theorem fault_near_block (h : Division implicitClose line readings events) {b : Block}
    (hb : b ∈ blocks events) {r : Reading} {m : Nat} (mem : (r, m) ∈ readings.zipIdx line)
    (low : b.firstLine ≤ m + 1) (high : m ≤ b.lastLine) :
    m ∈ faultLines events → b.firstLine ≤ m ∧ (r = .opens ∨ r = .closes) := by
  intro reported
  obtain ⟨before, front, rest, own, place, inFront⟩ := h.exists_stretchAt mem
  obtain ⟨start, stop, -⟩ := bounds_of_mem_zipIdx inFront
  have ordered := (h.liesIn b hb).firstLine_le
  have hown := place.block_mem b hb (by omega) (by omega)
  obtain ⟨inside, -, stray⟩ :=
    place.stretch.form.fault_of_block hown ((place.fault_iff m start stop).mp reported)
  exact ⟨inside, stray.imp (eq_of_mem_zipIdx inFront) (eq_of_mem_zipIdx inFront)⟩

theorem exists_stretchAt_of_abandoned (h : Division implicitClose line readings events)
    {opened declared : Nat} (abandoned : Abandoned (readings.zipIdx line) events opened declared) :
    ∃ before front rest own, StretchAt implicitClose line readings events before front rest own ∧
      (.declaresList, declared) ∈ front.zipIdx (line + before.length) ∧
        front.head? = some .opens ∧ opened = line + before.length := by
  obtain ⟨before, front, rest, own, place, inFront⟩ := h.exists_stretchAt abandoned.declares
  obtain ⟨low, high, -⟩ := bounds_of_mem_zipIdx inFront
  have start := place.le_of_waits abandoned.opens.1 low
  have opens := place.stretch.form.head?_of_list inFront (by have := abandoned.opens.1.2.1; omega)
  have first := (place.opensFor_iff low high).mpr (place.stretch.form.opensFor opens inFront)
  have := abandoned.opens.2 _ first.1
  exact ⟨before, front, rest, own, place, inFront, opens, by omega⟩

theorem not_mem_faultLines (h : Division implicitClose line readings events) {n : Nat} {fate : Fate}
    (other : fate ≠ .bearsFault)
    (holds : fate.Holds implicitClose (readings.zipIdx line) events n) :
    n ∉ faultLines events := by
  intro reported
  cases fate with
  | opensRegion =>
    obtain ⟨b, hb, first⟩ := holds
    have ordered := (h.liesIn b hb).firstLine_le
    have := (h.fault_near_block hb (h.opens_of_block hb first) (by omega) (by omega) reported).1
    omega
  | declaresRegion =>
    obtain ⟨b, hb, low, high, r, mem, declares⟩ := holds
    rcases (h.fault_near_block hb mem (by omega) high reported).2 with rfl | rfl
    · cases declares
    · cases declares
  | closesRegion =>
    obtain ⟨b, hb, rfl, declared, lists, low, high, closes⟩ := holds
    obtain ⟨before, front, rest, own, place, inFront⟩ := h.exists_stretchAt lists
    obtain ⟨start, stop, -⟩ := bounds_of_mem_zipIdx inFront
    have hown := place.block_mem b hb (by omega) (by omega)
    have inside := place.closing_lt (place.stretch.form.head?_of_block hown) inFront closes
    have stray := place.stretch.form.fault_of_block hown
      ((place.fault_iff _ (by omega) inside).mp reported)
    omega
  | bearsFault => exact other rfl
  | opensAbandoned =>
    obtain ⟨declared, abandoned⟩ := holds
    obtain ⟨before, front, rest, own, place, lists, opens, rfl⟩ :=
      h.exists_stretchAt_of_abandoned abandoned
    obtain ⟨-, high, -⟩ := bounds_of_mem_zipIdx lists
    have below := abandoned.opens.1.2.1
    have := place.stretch.form.fault_of_list opens lists
      ((place.fault_iff _ (by omega) (by omega)).mp reported)
    omega
  | closesAbandoned =>
    obtain ⟨opened, declared, abandoned, closes⟩ := holds
    obtain ⟨before, front, rest, own, place, lists, opens, rfl⟩ :=
      h.exists_stretchAt_of_abandoned abandoned
    obtain ⟨low, -, -⟩ := bounds_of_mem_zipIdx lists
    have below := closes.2.1
    have inside := place.closing_lt opens lists closes
    have := place.stretch.form.fault_of_list opens lists
      ((place.fault_iff _ (by omega) inside).mp reported)
    omega

theorem not_abandoned_of_opensRegion (h : Division implicitClose line readings events) {n : Nat}
    (region : Fate.opensRegion.Holds implicitClose (readings.zipIdx line) events n) :
    ¬Fate.opensAbandoned.Holds implicitClose (readings.zipIdx line) events n := by
  rintro ⟨declared, abandoned⟩
  obtain ⟨b, hb, first⟩ := region
  obtain ⟨before, front, rest, own, place, lists, opens, rfl⟩ :=
    h.exists_stretchAt_of_abandoned abandoned
  obtain ⟨low, high, -⟩ := bounds_of_mem_zipIdx lists
  have ordered := (h.liesIn b hb).firstLine_le
  have below := abandoned.opens.1.2.1
  have reported : declared ∈ faultLines events :=
    List.count_pos_iff.mp (by rw [abandoned.fault]; exact Nat.one_pos)
  have hown := place.block_mem b hb (by omega) (by omega)
  obtain ⟨-, -, stray⟩ :=
    place.stretch.form.fault_of_block hown ((place.fault_iff _ low high).mp reported)
  rcases stray with stray | stray
  · cases eq_of_mem_zipIdx lists stray
  · cases eq_of_mem_zipIdx lists stray

theorem eq_of_closesFor {m n closing : Nat} (listsM : (.declaresList, m) ∈ readings.zipIdx line)
    (listsN : (.declaresList, n) ∈ readings.zipIdx line)
    (closesM : ClosesFor (readings.zipIdx line) implicitClose m closing)
    (closesN : ClosesFor (readings.zipIdx line) implicitClose n closing) : m = n := by
  rcases Nat.lt_trichotomy m n with less | same | more
  · cases closesM.2.2 _ _ listsN less closesN.2.1
  · exact same
  · cases closesN.2.2 _ _ listsM more closesM.2.1

theorem not_abandoned_of_closesRegion (h : Division implicitClose line readings events) {n : Nat}
    (region : Fate.closesRegion.Holds implicitClose (readings.zipIdx line) events n) :
    ¬Fate.closesAbandoned.Holds implicitClose (readings.zipIdx line) events n := by
  rintro ⟨opened, declared, abandoned, closes⟩
  obtain ⟨b, hb, -, other, lists, low, high, closesOther⟩ := region
  obtain rfl := eq_of_closesFor lists abandoned.declares closesOther closes
  have reported := abandoned.fault
  have declares : Fate.declaresRegion.Holds implicitClose (readings.zipIdx line) events other :=
    ⟨b, hb, low, high, .declaresList, lists, rfl⟩
  refine h.not_mem_faultLines (by decide) declares (List.count_pos_iff.mp ?_)
  omega

theorem fate_unique (h : Division implicitClose line readings events) {n : Nat} {f g : Fate}
    (holdsF : f.Holds implicitClose (readings.zipIdx line) events n)
    (holdsG : g.Holds implicitClose (readings.zipIdx line) events n) : f = g := by
  have reported (fault : (faultLines events).count n = 1) : n ∈ faultLines events :=
    List.count_pos_iff.mp (by omega)
  by_cases faultF : f = .bearsFault
  · subst faultF
    refine Decidable.byContradiction fun other => ?_
    exact h.not_mem_faultLines (Ne.symm other) holdsG (reported holdsF)
  · by_cases faultG : g = .bearsFault
    · subst faultG
      exact absurd (reported holdsG) (h.not_mem_faultLines faultF holdsF)
    · -- Only two fates of an opening line are left, one of a declaring and two of a closing line.
      have opens := h.not_abandoned_of_opensRegion (n := n)
      have closes := h.not_abandoned_of_closesRegion (n := n)
      obtain ⟨r, memF, fitsF⟩ := h.fits_of_holds faultF holdsF
      obtain ⟨s, memG, fitsG⟩ := h.fits_of_holds faultG holdsG
      obtain rfl := eq_of_mem_zipIdx memF memG
      cases f <;> cases g <;> simp_all [Fate.Fits, Reading.isDeclaration]

end Division

/-- Every directive has one fate and no other. No line bears two faults, and a line that bears one
is a directive of the file. -/
theorem directive_has_one_fate (m : Markers) (implicitClose : Bool) (texts : List Text) :
    let readings := texts.map (Reading.ofLine m)
    let events := run implicitClose readings
    (∀ text n, (text, n) ∈ texts.zipIdx 1 → Line.classify m text ≠ .source →
        ∃! fate : Fate, fate.Holds implicitClose (readings.zipIdx 1) events n) ∧
      (faultLines events).Nodup ∧
        ∀ n ∈ faultLines events,
          ∃ text, (text, n) ∈ texts.zipIdx 1 ∧ Line.classify m text ≠ .source := by
  intro readings events
  have division : Division implicitClose 1 readings events := division_run implicitClose readings
  have directive_iff (text : Text) :
      (Reading.ofLine m text).isSource = false ↔ Line.classify m text ≠ .source := by
    rw [← Reading.kind_ofLine, Ne, ← Reading.isSource_iff, Bool.not_eq_true]
  have numbered : readings.zipIdx 1 = (texts.zipIdx 1).map (Prod.map (Reading.ofLine m) id) :=
    List.zipIdx_map
  refine ⟨?_, division.nodup_faultLines, ?_⟩
  · intro text n mem directive
    have read : (Reading.ofLine m text, n) ∈ readings.zipIdx 1 := by
      rw [numbered]
      exact List.mem_map_of_mem mem
    obtain ⟨before, front, rest, own, place, inFront⟩ := division.exists_stretchAt read
    obtain ⟨fate, holds⟩ := place.stretch.form.exists_fate place.stretch.nodup_faultLines inFront
      ((directive_iff text).mpr directive)
    exact ⟨fate, place.holds division.nodup_faultLines holds,
      fun other h => division.fate_unique h (place.holds division.nodup_faultLines holds)⟩
  · intro n hn
    obtain ⟨r, mem, directive⟩ := mem_directiveLines.mp (division.faultLines_subperm.subset hn)
    rw [numbered] at mem
    obtain ⟨⟨text, k⟩, hk, same⟩ := List.mem_map.mp mem
    obtain ⟨rfl, rfl⟩ := Prod.mk.inj same
    exact ⟨text, hk, (directive_iff text).mp directive⟩

end Lockstep.Scan
