import Lockstep.Proofs.Regions

/-! The bytes of a region say all that it asks of others. Cut out of whatever surrounded them and
read anew, they have the same lines, and these declare the same targets at the same places. -/
namespace Lockstep

/-- Whether contents that differ have fingerprints that differ, among some contents. -/
def Digest.Separates (contents : List Bytes) : Prop :=
  ∀ a ∈ contents, ∀ b ∈ contents, Digest.ofBytes a = Digest.ofBytes b → a = b

/-- What a region asks of others: its targets, how far below its first line each of them is named,
and whether the line that declares also names the target. -/
structure Obligations where
  targets : List Text
  offsets : List Int
  inline : Bool
deriving DecidableEq

def Scan.Reading.isInline : Reading → Bool
  | .declares _ => true
  | _ => false

/-- What a region of a file asks of others. Only a region with a list ends with another line than
the one that declares. -/
def Region.obligations (m : Markers) (file : Bytes) (r : Region) : Obligations :=
  { targets := r.targets, offsets := r.targetLines.map (· - r.firstLine),
    inline := ((Scan.readingsOf m file)[r.lastLine.toNat - 1]?).any Scan.Reading.isInline }

namespace Scan

def obligationsOf (own : List Reading) : Obligations :=
  { targets := (declarations 0 own).map Entry.target,
    offsets := (declarations 0 own).map fun e => (e.line : Int),
    inline := own.getLast?.any Reading.isInline }

theorem readingsOf_contentOf (m : Markers) (content : Bytes) (b : Block) :
    readingsOf m (contentOf (splitLines content) b) =
      ((readingsOf m content).take b.lastLine).drop (b.firstLine - 1) := by
  unfold readingsOf contentOf
  rw [splitLines_range, List.map_drop, List.map_take]

theorem declarations_eq_map (line : Nat) (own : List Reading) :
    declarations line own = (declarations 0 own).map (Entry.below line) := by
  rw [← declarations_below, Nat.add_zero]

theorem Block.LiesIn.getLast?_own {readings : List Reading} {b : Block} (h : b.LiesIn 1 readings) :
    ((readings.take b.lastLine).drop (b.firstLine - 1)).getLast? = readings[b.lastLine - 1]? := by
  have starts := h.firstLine_gt
  have ordered := h.firstLine_le
  have ends := h.lastLine_lt
  rw [List.getLast?_eq_getElem?, List.getElem?_drop, List.getElem?_take]
  simp only [List.length_drop, List.length_take]
  rw [if_pos (by omega)]
  congr 1
  omega

theorem Block.LiesIn.obligations_eq {m : Markers} {content : Bytes} {b : Block}
    (h : b.LiesIn 1 (readingsOf m content)) (path : Path) (place : Nat) :
    (regionOf path (splitLines content) place b).obligations m content =
      obligationsOf (readingsOf m (regionOf path (splitLines content) place b).content) := by
  have last := h.getLast?_own
  have entries := congrArg Block.entries h.eq_blockOf
  rw [blockOf, declarations_eq_map] at entries
  simp only [regionOf, readingsOf_contentOf, obligationsOf, Region.obligations, last]
  congr 1
  · rw [entries, List.map_map]
    rfl
  · rw [entries, List.map_map, List.map_map]
    apply List.map_congr_left
    intro e _
    simp only [Function.comp_apply, Entry.below]
    omega

end Scan

theorem FileScan.obligations_eq {convention : Convention} {path : Path} {file : Bytes} {r : Region}
    (h : r ∈ (ofContent convention path file).regions) :
    r.obligations convention.markers file =
      Scan.obligationsOf (Scan.readingsOf convention.markers r.content) := by
  obtain ⟨place, hplace⟩ := List.mem_iff_getElem?.mp h
  obtain ⟨b, lies, rfl⟩ := exists_block_of_getElem convention path file hplace
  exact lies.obligations_eq path place

/-- Regions with the same bytes ask for the same, wherever they stand. So where fingerprints tell
two regions' contents apart, no change of what a region asks for leaves its fingerprint as it is. -/
theorem obligations_eq_of_content_eq (m : Markers) (implicit₁ implicit₂ : Bool) (path₁ path₂ : Path)
    (file₁ file₂ : Bytes) (r₁ r₂ : Region)
    (h₁ : r₁ ∈ (FileScan.ofContent ⟨m, implicit₁⟩ path₁ file₁).regions)
    (h₂ : r₂ ∈ (FileScan.ofContent ⟨m, implicit₂⟩ path₂ file₂).regions) :
    (r₁.content = r₂.content → r₁.obligations m file₁ = r₂.obligations m file₂) ∧
      (Digest.Separates [r₁.content, r₂.content] →
        r₁.obligations m file₁ ≠ r₂.obligations m file₂ → r₁.digest ≠ r₂.digest) := by
  have determined : r₁.content = r₂.content →
      r₁.obligations m file₁ = r₂.obligations m file₂ := by
    intro same
    have first := FileScan.obligations_eq h₁
    have second := FileScan.obligations_eq h₂
    simp only at first second
    rw [first, second, same]
  refine ⟨determined, ?_⟩
  intro separated changed same
  exact changed (determined (separated _ (by simp) _ (by simp) same))

theorem obligations_eq_across_files :
    let own : Text := "x = 1\r\n# end-change\n#then-change\n# b\n#c\n"
    let file₁ := Text.toUtf8 ("# if-change\n" ++ own ++ "# end-change\n")
    let file₂ := Text.toUtf8 ("// then-change z\r# if-change\r" ++ own ++ "y = 2")
    ∃ r₁ ∈ (FileScan.ofContent {} "p" file₁).regions,
      ∃ r₂ ∈ (FileScan.ofContent { implicitClose := true } "q" file₂).regions,
        r₁.content = r₂.content ∧
          r₁.obligations .standard file₁ = r₂.obligations .standard file₂ := by
  intro own file₁ file₂
  let regions₁ := (FileScan.ofContent {} "p" file₁).regions
  let regions₂ := (FileScan.ofContent { implicitClose := true } "q" file₂).regions
  have found₁ : regions₁[0]?.isSome := by decide +kernel
  have found₂ : regions₂[0]?.isSome := by decide +kernel
  have same : regions₁[0]?.map Region.content = regions₂[0]?.map Region.content := by
    decide +kernel
  obtain ⟨r₁, h₁⟩ := Option.isSome_iff_exists.mp found₁
  obtain ⟨r₂, h₂⟩ := Option.isSome_iff_exists.mp found₂
  rw [h₁, h₂, Option.map_some, Option.map_some, Option.some.injEq] at same
  have mem₁ := List.mem_of_getElem? h₁
  have mem₂ := List.mem_of_getElem? h₂
  exact ⟨r₁, mem₁, r₂, mem₂, same,
    (obligations_eq_of_content_eq .standard false true "p" "q" file₁ file₂ r₁ r₂ mem₁ mem₂).1 same⟩

end Lockstep
