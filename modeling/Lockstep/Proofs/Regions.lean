import Lockstep.Proofs.Assertions
import Lockstep.Proofs.Extents
import Lockstep.Proofs.Lines

/-! What holds of the regions of every file, well-formed or not: they lie apart in the order of
their positions, name their targets within themselves, and have the bytes of their lines. -/
namespace Lockstep

namespace Line

theorem ne_nil_of_classify {m : Markers} {line target : Text}
    (h : classify m line = .declares target) : target ≠ [] := by
  unfold classify at h
  split at h
  · cases h
  · split at h
    · cases h
    · rename_i given nonempty _
      cases h
      exact nonempty
    · split at h <;> cases h

theorem ne_nil_of_targetEntry? {line target : Text} (h : targetEntry? line = some target) :
    target ≠ [] := by
  unfold targetEntry? at h
  dsimp only at h
  split at h
  · cases h
  · cases h
    simp

end Line

namespace Scan

def readingsOf (m : Markers) (content : Bytes) : List Reading :=
  (splitLines content).map fun line => Reading.ofLine m (lineText line)

@[simp] theorem length_readingsOf (m : Markers) (content : Bytes) :
    (readingsOf m content).length = (splitLines content).length := by
  simp [readingsOf]

theorem Reading.target_ne_nil {m : Markers} {line target : Text}
    (h : ofLine m line = .entry target ∨ ofLine m line = .declares target) : target ≠ [] := by
  unfold ofLine at h
  split at h
  · simp at h
  · rename_i given classified
    have same : given = target := by simpa using h
    exact same ▸ Line.ne_nil_of_classify classified
  · simp at h
  · simp at h
  · split at h
    · rename_i given named
      have same : given = target := by simpa using h
      exact same ▸ Line.ne_nil_of_targetEntry? named
    · split at h <;> simp at h

theorem target_ne_nil_of_mem {m : Markers} {content : Bytes} {target : Text}
    (h : .entry target ∈ readingsOf m content ∨ .declares target ∈ readingsOf m content) :
    target ≠ [] := by
  simp only [readingsOf, List.mem_map] at h
  rcases h with ⟨line, _, h⟩ | ⟨line, _, h⟩
  · exact Reading.target_ne_nil (.inl h)
  · exact Reading.target_ne_nil (.inr h)

end Scan

namespace FileScan

variable (convention : Convention) (path : Path) (content : Bytes)

theorem ofContent_cases :
    ofContent convention path content = Scan.everyLine convention path content ∨
      (ofContent convention path content).regions = [] := by
  unfold ofContent
  split
  · exact .inl rfl
  · exact .inr rfl

theorem exists_block_of_getElem {place : Nat} {r : Region}
    (h : (ofContent convention path content).regions[place]? = some r) :
    ∃ b : Scan.Block, b.LiesIn 1 (Scan.readingsOf convention.markers content) ∧
      r = Scan.regionOf path (splitLines content) place b := by
  rcases ofContent_cases convention path content with lines | none
  · rw [lines, Scan.everyLine, List.getElem?_mapIdx] at h
    obtain ⟨b, hb, rfl⟩ := Option.map_eq_some_iff.mp h
    exact ⟨b, (Scan.division_run _ _).liesIn b (List.mem_of_getElem? hb), rfl⟩
  · simp [none] at h

end FileScan

/-- What a region has to be, at a position among the regions of a file with some lines. -/
structure Region.WellPlaced (path : Path) (lines : List Bytes) (place : Nat) (r : Region) :
    Prop where
  file : r.file = path
  index : r.index = place
  one_le_firstLine : 1 ≤ r.firstLine
  firstLine_le_lastLine : r.firstLine ≤ r.lastLine
  lastLine_le_length : r.lastLine ≤ lines.length
  targets_ne_nil : r.targets ≠ []
  target_ne_nil : ∀ target ∈ r.targets, target ≠ []
  length_targetLines : r.targetLines.length = r.targets.length
  targetLines_increasing : r.targetLines.Pairwise (· < ·)
  targetLines_inside : ∀ line ∈ r.targetLines, r.firstLine ≤ line ∧ line ≤ r.lastLine
  content : r.content = ((lines.take r.lastLine.toNat).drop (r.firstLine.toNat - 1)).flatten

theorem Scan.Block.LiesIn.wellPlaced {m : Markers} {content : Bytes} {b : Block}
    (h : b.LiesIn 1 (readingsOf m content)) (path : Path) (place : Nat) :
    (regionOf path (splitLines content) place b).WellPlaced path (splitLines content) place := by
  have starts := h.firstLine_gt
  have ordered := h.firstLine_le
  have ends := h.lastLine_lt
  rw [length_readingsOf] at ends
  obtain ⟨before, own, after, split, declared, rfl⟩ := h
  simp only [blockOf] at starts ordered ends
  have within : ∀ r ∈ own, r ∈ readingsOf m content := by
    intro r hr
    rw [split]
    simp [hr]
  constructor
  case file => rfl
  case index => rfl
  case one_le_firstLine =>
    simp only [regionOf, blockOf]
    omega
  case firstLine_le_lastLine =>
    simp only [regionOf, blockOf]
    omega
  case lastLine_le_length =>
    simp only [regionOf, blockOf]
    omega
  case targets_ne_nil => simpa [regionOf, blockOf] using declared
  case target_ne_nil =>
    intro target ht
    obtain ⟨e, he, rfl⟩ := List.mem_map.mp ht
    obtain ⟨_, _, named⟩ := mem_declarations he
    exact target_ne_nil_of_mem (named.imp (within _) (within _))
  case length_targetLines => simp [regionOf]
  case targetLines_increasing =>
    refine List.pairwise_map.mpr ((pairwise_declarations own).imp ?_)
    intro a b hab
    exact Int.ofNat_lt.mpr hab
  case targetLines_inside =>
    intro line hl
    obtain ⟨e, he, rfl⟩ := List.mem_map.mp hl
    obtain ⟨low, high, _⟩ := mem_declarations he
    simp only [regionOf, blockOf]
    omega
  case content => rfl

/-- The regions of a scan are well placed, and at least two lines separate the end of one from the
beginning of the next. The lines are those of the content, and no assertion fails over them. -/
theorem regions_wellPlaced (convention : Convention) (path : Path) (content : Bytes) :
    let regions := (FileScan.ofContent convention path content).regions
    let lines := splitLines content
    (∀ (place : Nat) (r : Region), regions[place]? = some r → r.WellPlaced path lines place) ∧
      regions.Pairwise (fun r s => r.lastLine + 2 ≤ s.firstLine) ∧
      lines.flatten = content ∧ AreLines lines ∧
      Scan.assertedRun convention.implicitClose (Scan.readingsOf convention.markers content) =
        some (Scan.eventsOf convention content) := by
  refine ⟨?_, ?_, flatten_splitLines content, areLines_splitLines content,
    Scan.assertedRun_eq _ _⟩
  · intro place r h
    obtain ⟨b, lies, rfl⟩ := FileScan.exists_block_of_getElem convention path content h
    exact lies.wellPlaced path place
  · rcases FileScan.ofContent_cases convention path content with lines | none
    · rw [lines, Scan.everyLine]
      have apart := (Scan.division_run convention.implicitClose
        (Scan.readingsOf convention.markers content)).pairwise_blocks
      rw [List.pairwise_iff_getElem] at apart ⊢
      intro i j hi hj hij
      rw [List.length_mapIdx] at hi hj
      rw [List.getElem_mapIdx, List.getElem_mapIdx]
      exact Int.ofNat_le.mpr (apart i j hi hj hij)
    · simp [none]

theorem wellPlaced_between_faults :
    let content := Text.toUtf8
      "# if-change\n# if-change\na\n#then-change b\n# if-change\n# then-change\n# c\nd\n"
    ∃ r, (FileScan.ofContent {} "f" content).regions[0]? = some r ∧
      r.WellPlaced "f" (splitLines content) 0 := by
  intro content
  have found : (FileScan.ofContent {} "f" content).regions[0]?.isSome := by decide +kernel
  obtain ⟨r, h⟩ := Option.isSome_iff_exists.mp found
  exact ⟨r, h, (regions_wellPlaced {} "f" content).1 0 r h⟩

end Lockstep
