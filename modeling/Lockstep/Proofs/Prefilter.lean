import Mathlib.Data.List.Basic
import Lockstep.Proofs.Decoding
import Lockstep.Proofs.Regions
import Lockstep.Proofs.Stretches

/-! Looking for markers among the bytes of a whole file hides nothing that reading its lines would
find: a line that is a directive spells a marker, and its bytes are the marker's own unless a
replacement character has stood in for others. -/
namespace Lockstep

/-- What stands in a text for bytes that are no character. -/
def Glyph.replacement : Glyph := .char '\uFFFD'

/-- Whether no marker has a character that may stand for bytes of another kind. -/
def Markers.Faithful (m : Markers) : Prop := ∀ word ∈ m.words, Glyph.replacement ∉ word

instance (m : Markers) : Decidable m.Faithful := inferInstanceAs (Decidable (∀ _ ∈ _, _))

/-- Whether UTF-8 has bytes for every marker. -/
def Markers.Encodable (m : Markers) : Prop := ∀ word ∈ m.words, word.IsProse

instance (m : Markers) : Decidable m.Encodable := inferInstanceAs (Decidable (∀ _ ∈ _, _))

theorem hasSlice_of_infix {part bytes : Bytes} (h : part <:+: bytes) :
    hasSlice part bytes = true := by
  induction bytes with
  | nil => simpa [hasSlice] using h
  | cons b rest ih =>
    rw [hasSlice, Bool.or_eq_true, List.isPrefixOf_iff_prefix]
    exact (List.infix_cons_iff.mp h).imp id ih

namespace Text

theorem trimEnd_prefix (p : Glyph → Bool) (t : Text) : t.trimEnd p <+: t := by
  have suffix := List.dropWhile_suffix (l := t.reverse) p
  rw [← List.reverse_prefix, List.reverse_reverse] at suffix
  exact suffix

def ofPiece : Utf8.Piece → Glyph
  | .char c => .char c
  | .junk _ => Glyph.replacement

theorem ofUtf8Lossy_eq_map (bytes : Bytes) :
    ofUtf8Lossy bytes = (Utf8.pieces bytes).map ofPiece := by
  unfold ofUtf8Lossy
  apply List.map_congr_left
  intro piece _
  cases piece <;> rfl

theorem toUtf8_map_ofPiece {pieces : List Utf8.Piece}
    (faithful : Glyph.replacement ∉ pieces.map ofPiece) :
    toUtf8 (pieces.map ofPiece) = pieces.flatMap Utf8.Piece.bytes := by
  induction pieces with
  | nil => rfl
  | cons piece rest ih =>
    rw [List.map_cons, List.mem_cons, not_or] at faithful
    rw [List.flatMap_cons, ← ih faithful.2]
    cases piece with
    | char c => rfl
    | junk bs => exact absurd rfl faithful.1

theorem toUtf8_infix {word : Text} {bytes : Bytes} (faithful : Glyph.replacement ∉ word)
    (h : word <:+: ofUtf8Lossy bytes) : word.toUtf8 <:+: bytes := by
  rw [ofUtf8Lossy_eq_map] at h
  obtain ⟨pieces, part, rfl⟩ := List.infix_map_iff.mp h
  obtain ⟨before, after, whole⟩ := part
  rw [toUtf8_map_ofPiece faithful, ← Utf8.flatMap_bytes_pieces bytes, ← whole,
    List.flatMap_append, List.flatMap_append]
  exact List.infix_append _ _ _

end Text

namespace Line

end Line

namespace Scan

theorem containsAny_of_prose {words : List Text} (prose : ∀ word ∈ words, word.IsProse)
    (content : Bytes) :
    containsAny words content = .ok (words.any fun word => hasSlice word.toUtf8 content) := by
  induction words with
  | nil => rfl
  | cons word rest ih =>
    obtain ⟨here, others⟩ := List.forall_mem_cons.mp prose
    rw [containsAny, Text.encode?_of_isProse here]
    by_cases found : hasSlice word.toUtf8 content = true
    · simp [found]
    · simp [found, ih others]

theorem containsAny_eq_error {words : List Text} {content : Bytes} {word : Text}
    (refused : containsAny words content = .error word) : word ∈ words ∧ ¬ word.IsProse := by
  induction words with
  | nil => cases refused
  | cons first rest ih =>
    rw [containsAny, Text.encode?] at refused
    by_cases prose : first.IsProse
    · rw [if_pos prose] at refused
      dsimp only at refused
      split at refused
      · cases refused
      · exact ⟨List.mem_cons_of_mem _ (ih refused).1, (ih refused).2⟩
    · rw [if_neg prose] at refused
      cases refused
      exact ⟨List.mem_cons_self .., prose⟩

def Reading.kind : Reading → LineKind
  | .opens => .opens
  | .declares target => .declares target
  | .declaresList => .declaresList
  | .closes => .closes
  | .entry _ | .separator | .code => .source

theorem Reading.kind_ofLine (m : Markers) (line : Text) :
    (ofLine m line).kind = Line.classify m line := by
  unfold ofLine
  cases Line.classify m line with
  | source =>
    dsimp only
    split
    · rfl
    · split <;> rfl
  | _ => rfl

theorem Reading.isSource_iff {reading : Reading} :
    reading.isSource = true ↔ reading.kind = .source := by
  cases reading <;> simp [isSource, kind]

theorem outcome_idle_source {implicitClose : Bool} {readings : List Reading}
    (source : ∀ r ∈ readings, r.isSource = true) (line : Nat) (rest : List Reading) :
    outcome implicitClose .idle line (readings ++ rest) =
      outcome implicitClose .idle (line + readings.length) rest := by
  induction readings generalizing line with
  | nil => rfl
  | cons reading readings ih =>
    have tail := ih (fun r hr => source r (by simp [hr])) (line + 1)
    have head := source reading (by simp)
    rw [Nat.add_assoc, Nat.add_comm 1] at tail
    cases reading <;> simp_all [outcome_cons, step, stepIdle, Reading.isSource]

theorem treatment_eq_error {m : Markers} {content : Bytes} {word : Text}
    (refused : treatment m content = .error word) : word ∈ m.words ∧ ¬ word.IsProse := by
  unfold treatment at refused
  split at refused
  · cases refused
  · cases searched : mayContainMarkers m content with
    | error other =>
      rw [searched] at refused
      cases refused
      exact containsAny_eq_error searched
    | ok found =>
      rw [searched] at refused
      cases refused

theorem exists_mayContainMarkers {m : Markers} (encodable : m.Encodable) (content : Bytes) :
    ∃ found, mayContainMarkers m content = .ok found :=
  ⟨_, containsAny_of_prose encodable content⟩

end Scan

namespace FileScan

variable {convention : Convention} {path : Path} {content : Bytes}

theorem parse_marked (noZero : 0 ∉ content)
    (marked : Scan.mayContainMarkers convention.markers content = .ok true) (path : Path) :
    parse convention path content = .ok (Scan.everyLine convention path content) := by
  have text : content.contains 0 = false := by simpa using noZero
  unfold parse ofContent Scan.treatment
  rw [text, marked]
  rfl

theorem parse_unmarked (unmarked : Scan.mayContainMarkers convention.markers content = .ok false)
    (path : Path) :
    parse convention path content = .ok { path, digest := .ofBytes content } := by
  unfold parse ofContent Scan.treatment
  rw [unmarked]
  cases content.contains 0 with
  | true => rfl
  | false => rfl

end FileScan

end Lockstep
