import Lockstep.Proofs.Encoding

/-! What a line says that was written with a marker. A marker that begins and ends with neither
punctuation nor a blank is found where it stands behind a comment's opening, and no other marker is
found there: one that is its beginning goes on as a word, and one that occurs later has a letter
before it. -/
namespace Lockstep

section Runs

variable {α : Type} {p : α → Bool} {front rest : List α}

theorem takeWhile_run (all : ∀ x ∈ front, p x = true) (ends : ∀ x ∈ rest.head?, p x = false) :
    (front ++ rest).takeWhile p = front := by
  rw [List.takeWhile_append_of_pos all]
  cases rest with
  | nil => simp
  | cons x rest => simp [ends x rfl]

theorem dropWhile_run (all : ∀ x ∈ front, p x = true) (ends : ∀ x ∈ rest.head?, p x = false) :
    (front ++ rest).dropWhile p = rest := by
  rw [List.dropWhile_append_of_pos all]
  cases rest with
  | nil => simp
  | cons x rest => simp [ends x rfl]

theorem dropWhile_of_head (stays : ∀ x ∈ rest.head?, p x = false) : rest.dropWhile p = rest :=
  @dropWhile_run _ p [] rest nofun stays

end Runs

namespace Text

section TrimEnd

variable {p : Glyph → Bool} {t tail : Text}

theorem trimEnd_append_of_last (last : ∀ g ∈ t.getLast?, p g = false) (tail : Text) :
    (t ++ tail).trimEnd p = t ++ tail.trimEnd p := by
  have stop : t.reverse.dropWhile p = t.reverse := dropWhile_of_head (by simpa using last)
  unfold trimEnd
  rw [List.reverse_append, List.dropWhile_append, stop]
  split
  · rename_i gone
    simp [List.isEmpty_iff.mp gone]
  · simp

theorem trimEnd_eq_self (last : ∀ g ∈ t.getLast?, p g = false) : t.trimEnd p = t := by
  have whole := trimEnd_append_of_last last []
  rw [List.append_nil] at whole
  exact whole.trans (List.append_nil t)

theorem trimEnd_append (all : ∀ g ∈ tail, p g = true) : (t ++ tail).trimEnd p = t.trimEnd p := by
  unfold trimEnd
  rw [List.reverse_append, List.dropWhile_append_of_pos]
  intro g hg
  exact all g (List.mem_reverse.mp hg)

end TrimEnd

structure IsMark (word : Text) : Prop where
  nonempty : word ≠ []
  solid : ∀ g ∈ word, g.isBlank = false
  first : ∀ g ∈ word.head?, g.isFiller = false
  last : ∀ g ∈ word.getLast?, g.isFiller = false

structure IsPath (path : Text) : Prop where
  nonempty : path ≠ []
  solid : ∀ g ∈ path, g.isBlank = false
  last : ∀ g ∈ path.getLast?, g.isPunct = false

section IsPath

variable {path : Text} (h : path.IsPath)

include h

theorem IsPath.unbroken : ∀ g ∈ path, (!g.isBlank) = true := by
  intro g hg
  rw [h.solid g hg]
  rfl

theorem IsPath.head?_solid : ∀ g ∈ path.head?, g.isBlank = false := by
  intro g hg
  exact h.solid g (List.mem_of_head? hg)

theorem IsPath.last_stays : ∀ g ∈ path.getLast?, g.isFiller = false := by
  intro g hg
  have solid := h.solid g (List.mem_of_getLast? hg)
  have last := h.last g hg
  refine Bool.eq_false_iff.mpr fun filler => ?_
  rcases Glyph.isBlank_or_isPunct_of_isFiller filler with blank | punct
  · simp [solid] at blank
  · simp [last] at punct

theorem IsPath.dropFillerEnd_append (lead : Text) : (lead ++ path).dropFillerEnd = lead ++ path := by
  apply trimEnd_eq_self
  rw [List.getLast?_append_of_ne_nil _ h.nonempty]
  exact h.last_stays

theorem IsPath.dropFillerEnd_self : path.dropFillerEnd = path :=
  trimEnd_eq_self h.last_stays

end IsPath

theorem cut?_lead {lead word : Text} (filler : ∀ g ∈ lead, g.isFiller = true) (mark : word.IsMark)
    (tail : Text) : cut? word (lead ++ (word ++ tail)) = some (lead, tail) := by
  induction lead with
  | nil =>
    cases word with
    | nil => exact absurd rfl mark.nonempty
    | cons g word => simp [cut?]
  | cons l lead ih =>
    have rest := ih fun g hg => filler g (by simp [hg])
    have unlike : word.isPrefixOf (l :: (lead ++ (word ++ tail))) = false := by
      cases word with
      | nil => exact absurd rfl mark.nonempty
      | cons g word =>
        have different : g ≠ l := by
          rintro rfl
          have := mark.first g rfl
          simp [filler g (by simp)] at this
        simp [List.isPrefixOf, different]
    rw [List.cons_append, cut?, unlike, rest]
    rfl

end Text

theorem lineText_append {line ending : Bytes} (plain : ∀ b ∈ line, b ≠ 10 ∧ b ≠ 13)
    (ends : ending ∈ lineEndings) : lineText (line ++ ending) = Text.ofUtf8Lossy line := by
  have unbroken : ∀ g ∈ (Text.ofUtf8Lossy line).getLast?,
      (decide (g = .char '\n') || decide (g = .char '\r')) = false := by
    intro g hg
    have mem := List.mem_of_getLast? hg
    rw [Bool.or_eq_false_iff, decide_eq_false_iff_not, decide_eq_false_iff_not]
    constructor
    · rintro rfl
      exact (plain 10 (Text.mem_of_mem_ofUtf8Lossy (by decide) mem 10 (by decide))).1 rfl
    · rintro rfl
      exact (plain 13 (Text.mem_of_mem_ofUtf8Lossy (by decide) mem 13 (by decide))).2 rfl
  obtain ⟨b, rest, rfl, ascii, breaks⟩ : ∃ b rest, ending = b :: rest ∧ b.toNat < 0x80 ∧
      ∀ g ∈ Text.ofUtf8Lossy (b :: rest),
        (decide (g = .char '\n') || decide (g = .char '\r')) = true := by
    simp only [lineEndings, List.mem_cons, List.not_mem_nil, or_false] at ends
    rcases ends with rfl | rfl | rfl <;> exact ⟨_, _, rfl, by decide, by decide +kernel⟩
  rw [lineText, Text.ofUtf8Lossy_append ascii, Text.trimEnd_append breaks,
    Text.trimEnd_eq_self unbroken]

namespace Line

section Remainder

variable {lead word tail : Text} (filler : ∀ g ∈ lead, g.isFiller = true) (mark : word.IsMark)

theorem head?_mark {word : Text} (mark : word.IsMark) (tail : Text) :
    ∀ g ∈ (word ++ tail).head?, g.isFiller = false := by
  cases word with
  | nil => exact absurd rfl mark.nonempty
  | cons g word => exact mark.first

include filler mark

theorem remainder?_own (tail : Text) :
    remainder? word (lead ++ (word ++ tail)) =
      match tail.dropFillerEnd with
      | [] => some []
      | g :: rest => if g.isBlank then some (Text.strip (g :: rest)) else none := by
  unfold remainder?
  rw [Text.cut?_lead filler mark]
  dsimp only
  refine (if_pos (List.all_eq_true.mpr filler)).trans ?_
  cases tail.dropFillerEnd <;> rfl

theorem remainder?_other {other : Text} (markOther : other.IsMark) (apart : other ≠ word)
    (behind : ∀ g ∈ tail.head?, g.isBlank = true) :
    remainder? other (lead ++ (word ++ tail)) = none := by
  unfold remainder?
  split
  · rfl
  rename_i before after cut
  split
  · rename_i fillerBefore
    -- Both stand behind all of the filler, so one of them is the beginning of the other.
    have both : word ++ tail = other ++ after := by
      have whole := congrArg (List.dropWhile Glyph.isFiller) (Text.eq_of_cut? cut)
      rwa [List.append_assoc, dropWhile_run filler (head?_mark mark tail),
        dropWhile_run (List.all_eq_true.mp fillerBefore) (head?_mark markOther after)] at whole
    rcases List.append_eq_append_iff.mp both with ⟨more, rfl, rfl⟩ | ⟨more, rfl, rfl⟩
    · cases more with
      | nil => exact absurd (List.append_nil word) apart
      | cons g more =>
        have blank := behind g rfl
        rw [markOther.solid g (by simp)] at blank
        cases blank
    · cases more with
      | nil => exact absurd (List.append_nil other).symm apart
      | cons g more =>
        -- What the longer one has more is not trimmed, and it goes on as a word.
        have last : ∀ l ∈ (g :: more).getLast?, l.isFiller = false := by
          intro l hl
          exact mark.last l (by simpa [List.getLast?_append] using hl)
        rw [Text.dropFillerEnd, Text.trimEnd_append_of_last last]
        dsimp only [List.cons_append]
        rw [mark.solid g (by simp), if_neg Bool.false_ne_true]
  · rfl

theorem remainder?_alone : remainder? word (lead ++ word) = some [] := by
  have own := remainder?_own filler mark []
  rwa [List.append_nil] at own

theorem remainder?_other_alone {other : Text} (markOther : other.IsMark) (apart : other ≠ word) :
    remainder? other (lead ++ word) = none := by
  have none := @remainder?_other lead word [] filler mark other markOther apart (by simp)
  rwa [List.append_nil] at none

theorem remainder?_path {path : Text} (isPath : path.IsPath) :
    remainder? word (lead ++ (word ++ .char ' ' :: path)) = some path := by
  have last : ∀ g ∈ (Glyph.char ' ' :: path).getLast?, g.isFiller = false := by
    intro g hg
    apply isPath.last_stays
    rwa [List.getLast?_cons_of_ne_nil isPath.nonempty] at hg
  have bare : Text.strip (.char ' ' :: path) = path := by
    have front : (Glyph.char ' ' :: path).dropWhile Glyph.isBlank = path :=
      @dropWhile_run _ Glyph.isBlank [.char ' '] path (by decide) isPath.head?_solid
    rw [Text.strip, Text.trim, front]
    apply Text.trimEnd_eq_self
    intro g hg
    exact isPath.solid g (List.mem_of_getLast? hg)
  rw [remainder?_own filler mark, Text.dropFillerEnd, Text.trimEnd_eq_self last]
  dsimp only
  rw [if_pos (by decide), bare]

end Remainder

end Line

namespace Markers

variable (m : Markers)

theorem opens_ne_declares : m.opens ≠ m.declares := by
  have := m.distinct
  simp_all

theorem opens_ne_closes : m.opens ≠ m.closes := by
  have := m.distinct
  simp_all

theorem declares_ne_closes : m.declares ≠ m.closes := by
  have := m.distinct
  simp_all

/-- Whether every marker begins and ends with neither ASCII punctuation nor a blank. -/
def StandOut : Prop :=
  ∀ word ∈ m.words,
    (∀ g ∈ word.head?, g.isFiller = false) ∧ ∀ g ∈ word.getLast?, g.isFiller = false

instance : Decidable m.StandOut := inferInstanceAs (Decidable (∀ _ ∈ _, _))

variable {m}

theorem solid_of_mem_words {word : Text} (mem : word ∈ m.words) :
    word ≠ [] ∧ ∀ g ∈ word, g.isBlank = false := by
  have usable := m.usable word mem
  simpa [isMarkerWord] using usable

theorem StandOut.isMark (h : m.StandOut) : ∀ word ∈ m.words, word.IsMark := by
  intro word mem
  obtain ⟨nonempty, solid⟩ := solid_of_mem_words mem
  exact ⟨nonempty, solid, (h word mem).1, (h word mem).2⟩

end Markers

namespace Line

section Classify

variable {m : Markers} (marks : ∀ word ∈ m.words, word.IsMark) {lead : Text}
  (filler : ∀ g ∈ lead, g.isFiller = true)

include marks filler

theorem classify_opens : classify m (lead ++ m.opens) = .opens := by
  have own := remainder?_alone filler (marks m.opens (by simp [Markers.words]))
  unfold classify
  rw [own]
  rfl

theorem classify_declares {path : Text} (isPath : path.IsPath) :
    classify m (lead ++ (m.declares ++ .char ' ' :: path)) = .declares path := by
  have markOpens := marks m.opens (by simp [Markers.words])
  have markDeclares := marks m.declares (by simp [Markers.words])
  have own := remainder?_path filler markDeclares isPath
  have unopened : remainder? m.opens (lead ++ (m.declares ++ .char ' ' :: path)) = none :=
    remainder?_other filler markDeclares markOpens m.opens_ne_declares
      (by simp [Glyph.isBlank, isBlankChar])
  unfold classify
  rw [own, unopened]
  cases path with
  | nil => exact absurd rfl isPath.nonempty
  | cons g path => rfl

theorem classify_declaresList : classify m (lead ++ m.declares) = .declaresList := by
  have markOpens := marks m.opens (by simp [Markers.words])
  have markDeclares := marks m.declares (by simp [Markers.words])
  have own := remainder?_alone filler markDeclares
  have unopened := remainder?_other_alone filler markDeclares markOpens m.opens_ne_declares
  unfold classify
  rw [own, unopened]
  rfl

theorem classify_closes : classify m (lead ++ m.closes) = .closes := by
  have markOpens := marks m.opens (by simp [Markers.words])
  have markDeclares := marks m.declares (by simp [Markers.words])
  have markCloses := marks m.closes (by simp [Markers.words])
  have own := remainder?_alone filler markCloses
  have unopened := remainder?_other_alone filler markCloses markOpens m.opens_ne_closes
  have undeclared := remainder?_other_alone filler markCloses markDeclares m.declares_ne_closes
  unfold classify
  rw [own, unopened, undeclared]
  rfl

end Classify

def hasLeader : Text → Bool
  | .char '<' :: .char '!' :: .char '-' :: .char '-' :: _ => true
  | .char '/' :: .char '*' :: _ => true
  | .char '/' :: .char '/' :: _ => true
  | t => t.head?.any isLeaderMark

theorem dropLeader_eq_self {t : Text} (bare : hasLeader t = false) : dropLeader t = t := by
  unfold dropLeader
  split
  · simp [hasLeader] at bare
  · simp [hasLeader] at bare
  · simp [hasLeader] at bare
  · rename_i comment block slashes
    rw [hasLeader.eq_4 t comment block slashes] at bare
    apply dropWhile_of_head
    intro g hg
    simpa [Option.mem_def.mp hg] using bare

theorem unbroken_of_punct {leader : Text} (punct : ∀ g ∈ leader, g.isPunct = true) :
    ∀ g ∈ leader, (!g.isBlank) = true := by
  intro g hg
  rw [Glyph.not_isBlank_of_isPunct (punct g hg)]
  rfl

section Entry

variable {path : Text} (isPath : path.IsPath)

include isPath

theorem targetEntry?_alone :
    targetEntry? path = if dropLeader path = [] then none else some (dropLeader path) := by
  have front := dropWhile_of_head isPath.head?_solid
  have word := @takeWhile_run _ (fun g => !g.isBlank) path [] isPath.unbroken nofun
  have rest := @dropWhile_run _ (fun g => !g.isBlank) path [] isPath.unbroken nofun
  rw [List.append_nil] at word rest
  unfold targetEntry?
  simp only [isPath.dropFillerEnd_self, front, word, rest, if_true]
  cases dropLeader path with
  | nil => rfl
  | cons g tail => rfl

theorem targetEntry?_bare (bare : hasLeader path = false) : targetEntry? path = some path := by
  rw [targetEntry?_alone isPath, dropLeader_eq_self bare, if_neg isPath.nonempty]

theorem targetEntry?_behind {front leader gap : Text}
    (blankFront : ∀ g ∈ front, g.isBlank = true) (punct : ∀ g ∈ leader, g.isPunct = true)
    (blankGap : ∀ g ∈ gap, g.isBlank = true) (parted : leader ≠ [] → gap ≠ []) :
    targetEntry? (front ++ (leader ++ (gap ++ path))) = targetEntry? path := by
  have whole := isPath.dropFillerEnd_append (front ++ (leader ++ gap))
  simp only [List.append_assoc] at whole
  cases leader with
  | nil =>
    have blank : ∀ g ∈ front ++ gap, g.isBlank = true := by
      intro g hg
      exact (List.mem_append.mp hg).elim (blankFront g) (blankGap g)
    rw [List.nil_append, ← List.append_assoc] at whole ⊢
    unfold targetEntry?
    rw [whole, dropWhile_run blank isPath.head?_solid, isPath.dropFillerEnd_self,
      dropWhile_of_head isPath.head?_solid]
  | cons l leader =>
    have solid := unbroken_of_punct punct
    have begins : ∀ g ∈ (l :: leader ++ (gap ++ path)).head?, g.isBlank = false := by
      rintro g ⟨⟩
      exact Glyph.not_isBlank_of_isPunct (punct l (by simp))
    have ends : ∀ g ∈ (gap ++ path).head?, (!g.isBlank) = false := by
      cases gap with
      | nil => exact absurd rfl (parted (List.cons_ne_nil _ _))
      | cons g gap => simpa using blankGap g (by simp)
    have word := List.all_eq_true.mpr isPath.unbroken
    rw [targetEntry?_alone isPath]
    unfold targetEntry?
    simp only [whole, dropWhile_run blankFront begins, takeWhile_run solid ends,
      dropWhile_run solid ends, dropWhile_run blankGap isPath.head?_solid]
    rw [if_neg (by simp [isPath.nonempty]),
      if_pos (Bool.and_eq_true_iff.mpr ⟨List.all_eq_true.mpr punct, word⟩)]
    cases dropLeader path with
    | nil => rfl
    | cons g tail => rfl

theorem targetEntry?_bullet {leader gap : Text} (punct : ∀ g ∈ leader, g.isPunct = true)
    (parted : gap ≠ []) (blank : ∀ g ∈ gap, g.isBlank = true) (bare : hasLeader path = false) :
    targetEntry? (leader ++ (gap ++ path)) = some path := by
  have alone := @targetEntry?_behind path isPath [] leader gap nofun punct blank fun _ => parted
  rw [List.nil_append] at alone
  rw [alone, targetEntry?_bare isPath bare]

end Entry

end Line
end Lockstep
