import Lockstep.Proofs.Recognition

/-! What may stand before the path of a target. A comment's opening may have any number of runs of
punctuation, parted by blanks, and a directive is found behind all of them. The path of a target is
found behind one run at most. -/
namespace Lockstep.Line

/-- Whether a text is blanks, with at most one run of punctuation among them. -/
def IsEntryLead (lead : Text) : Prop :=
  ∃ front leader gap, lead = front ++ (leader ++ gap) ∧ (∀ g ∈ front, g.isBlank = true) ∧
    (∀ g ∈ leader, g.isPunct = true) ∧ ∀ g ∈ gap, g.isBlank = true

def behindWord (t : Text) : Text :=
  (t.dropWhile Glyph.isBlank).dropWhile fun g => !g.isBlank

section Lead

variable {lead path : Text}

theorem dropWhile_append_of_head {p : Glyph → Bool} (stays : ∀ g ∈ path.head?, p g = false)
    (lead : Text) : (lead ++ path).dropWhile p = lead.dropWhile p ++ path := by
  rw [List.dropWhile_append, dropWhile_of_head stays]
  split
  · rename_i gone
    rw [List.isEmpty_iff.mp gone, List.nil_append]
  · rfl

theorem behindWord_suffix (t : Text) : behindWord t <:+ t :=
  (List.dropWhile_suffix _).trans (List.dropWhile_suffix _)

theorem isBlank_getLast_of_suffix (ends : ∀ g ∈ lead.getLast?, g.isBlank = true) {t : Text}
    (suffix : t <:+ lead) (some : t ≠ []) : (t.getLast some).isBlank = true := by
  obtain ⟨front, rfl⟩ := suffix
  apply ends
  rw [List.getLast?_append_of_ne_nil front some, List.getLast?_eq_some_getLast some]
  rfl

theorem isEntryLead_iff (filler : isCommentLead lead = true) :
    IsEntryLead lead ↔ ∀ g ∈ behindWord lead, g.isBlank = true := by
  unfold behindWord
  constructor
  · rintro ⟨front, leader, gap, rfl, blankFront, punct, blankGap⟩
    rw [List.dropWhile_append_of_pos blankFront]
    cases leader with
    | nil =>
      rw [List.nil_append, List.dropWhile_eq_nil_iff.mpr blankGap]
      nofun
    | cons l leader =>
      have begins : ∀ g ∈ (l :: leader ++ gap).head?, g.isBlank = false := by
        rintro g ⟨⟩
        exact Glyph.not_isBlank_of_isPunct (punct l (by simp))
      rw [dropWhile_of_head begins, List.dropWhile_append_of_pos (unbroken_of_punct punct)]
      exact fun g hg => blankGap g ((List.dropWhile_suffix _).subset hg)
  · intro blank
    refine ⟨lead.takeWhile Glyph.isBlank,
      (lead.dropWhile Glyph.isBlank).takeWhile fun g => !g.isBlank, _, ?_, ?_, ?_, blank⟩
    · rw [List.takeWhile_append_dropWhile, List.takeWhile_append_dropWhile]
    · exact fun g hg => List.mem_takeWhile_imp hg
    · intro g hg
      have solid := List.mem_takeWhile_imp hg
      have inLead : g ∈ lead :=
        (List.dropWhile_suffix _).subset ((List.takeWhile_prefix _).subset hg)
      exact Glyph.isPunct_of_isFiller (List.all_eq_true.mp filler g inLead) (by simpa using solid)

theorem targetEntry?_behind_more (ends : ∀ g ∈ lead.getLast?, g.isBlank = true)
    (isPath : path.IsPath) {g : Glyph} (mem : g ∈ behindWord lead) (solid : g.isBlank = false) :
    targetEntry? (lead ++ path) = none := by
  have rest : (lead.dropWhile Glyph.isBlank ++ path).dropWhile (fun g => !g.isBlank) =
      behindWord lead ++ path := by
    rw [List.dropWhile_append, if_neg]
    · rfl
    · intro none
      rw [behindWord, List.isEmpty_iff.mp none] at mem
      cases mem
  -- The second run of punctuation is followed by the blank before the path.
  have blankInside : ((behindWord lead).dropWhile Glyph.isBlank ++ path).all
      (fun g => !g.isBlank) = false := by
    have left : g ∈ (behindWord lead).dropWhile Glyph.isBlank := by
      rw [← @List.takeWhile_append_dropWhile _ Glyph.isBlank (behindWord lead)] at mem
      refine (List.mem_append.mp mem).resolve_left fun front => ?_
      rw [List.mem_takeWhile_imp front] at solid
      cases solid
    have some := List.ne_nil_of_mem left
    have last := isBlank_getLast_of_suffix ends
      ((List.dropWhile_suffix Glyph.isBlank).trans (behindWord_suffix lead)) some
    rw [List.all_eq_false]
    exact ⟨_, List.mem_append_left path (List.getLast_mem some), by simp [last]⟩
  unfold targetEntry?
  simp only [isPath.dropFillerEnd_append, dropWhile_append_of_head isPath.head?_solid, rest, blankInside]
  rw [if_neg (by simp [isPath.nonempty]), Bool.and_false, if_neg Bool.false_ne_true]
  rfl

end Lead

theorem isPunct_of_isLeaderMark {g : Glyph} (mark : isLeaderMark g = true) : g.isPunct = true := by
  cases g with
  | byte b => cases mark
  | char c =>
    have mem : c ∈ ['#', ';', '%', '*', '!', '\'', '"', '-'] := by simpa [isLeaderMark] using mark
    simp only [List.mem_cons, List.not_mem_nil, or_false] at mem
    rcases mem with rfl | rfl | rfl | rfl | rfl | rfl | rfl | rfl
    all_goals decide

theorem hasLeader_eq_false {path : Text} (first : ∀ g ∈ path.head?, g.isPunct = false) :
    hasLeader path = false := by
  unfold hasLeader
  split
  · exact absurd (first _ rfl) (by decide)
  · exact absurd (first _ rfl) (by decide)
  · exact absurd (first _ rfl) (by decide)
  · cases path with
    | nil => rfl
    | cons g path =>
      have letter := first g rfl
      refine Bool.eq_false_iff.mpr fun mark => ?_
      rw [isPunct_of_isLeaderMark (by simpa using mark)] at letter
      cases letter

/-- A path behind a comment's opening is read as a target if the opening has one run of punctuation
at most. With more of them the line is no entry at all. -/
theorem targetEntry?_lead_iff (lead path : Text) (filler : isCommentLead lead = true)
    (ends : ∀ g ∈ lead.getLast?, g.isBlank = true) (isPath : path.IsPath)
    (first : ∀ g ∈ path.head?, g.isPunct = false) :
    (IsEntryLead lead ↔ targetEntry? (lead ++ path) = some path) ∧
      (¬ IsEntryLead lead ↔ targetEntry? (lead ++ path) = none) := by
  by_cases entry : IsEntryLead lead
  · have read : targetEntry? (lead ++ path) = some path := by
      obtain ⟨front, leader, gap, rfl, blankFront, punct, blankGap⟩ := entry
      rw [List.append_assoc, List.append_assoc,
        targetEntry?_behind isPath blankFront punct blankGap ?_,
        targetEntry?_bare isPath (hasLeader_eq_false first)]
      -- A run of punctuation is parted from the path by the blank at the end.
      rintro led rfl
      have blank := isBlank_getLast_of_suffix ends (by simp) led
      rw [Glyph.not_isBlank_of_isPunct (punct _ (List.getLast_mem led))] at blank
      cases blank
    simp [read, entry]
  · have unread : targetEntry? (lead ++ path) = none := by
      have more := mt (isEntryLead_iff filler).mpr entry
      push Not at more
      obtain ⟨g, mem, solid⟩ := more
      exact targetEntry?_behind_more ends isPath mem (Bool.eq_false_iff.mpr solid)
    simp [unread, entry]

theorem targetEntry?_lead_iff_of_two :
    let path : Text := "docs/push.sh"
    let one : Text := "  <!-- "
    let two : Text := "  <!-- * "
    path.IsPath ∧ (∀ g ∈ path.head?, g.isPunct = false) ∧
      (∀ lead ∈ [one, two], isCommentLead lead = true ∧ ∀ g ∈ lead.getLast?, g.isBlank = true) ∧
      IsEntryLead one ∧ targetEntry? (one ++ path) = some path ∧
      ¬ IsEntryLead two ∧ targetEntry? (two ++ path) = none := by
  intro path one two
  have isPath : path.IsPath := ⟨by decide, by decide, by decide⟩
  have first : ∀ g ∈ path.head?, g.isPunct = false := by decide
  have leads : ∀ lead ∈ [one, two],
      isCommentLead lead = true ∧ ∀ g ∈ lead.getLast?, g.isBlank = true := by
    decide
  have iffs (lead : Text) (mem : lead ∈ [one, two]) :=
    targetEntry?_lead_iff lead path (leads lead mem).1 (leads lead mem).2 isPath first
  have read : targetEntry? (one ++ path) = some path := by decide
  have unread : targetEntry? (two ++ path) = none := by decide
  exact ⟨isPath, first, leads, (iffs one (by simp)).1.mpr read, read,
    (iffs two (by simp)).2.mpr unread, unread⟩

/-- A path behind two runs of punctuation is no entry. Where a list of targets may end without its
closing line, such a line ends it, and nothing tells of the target that is lost. -/
theorem targetEntry?_lead_lost :
    ∃ lead path : Text, isCommentLead lead = true ∧ (∀ g ∈ lead.getLast?, g.isBlank = true) ∧
      path ≠ [] ∧ (∀ g ∈ path, g.isBlank = false) ∧ (∀ g ∈ path.head?, g.isPunct = false) ∧
      (∀ g ∈ path.getLast?, g.isPunct = false) ∧ targetEntry? (lead ++ path) = none ∧
      let file : Text := "# if-change\nx\n# then-change\n# a.sh\n" ++ (lead ++ (path ++ "\n"))
      let scan := FileScan.ofContent { implicitClose := true } "f" file.toUtf8
      scan.errors = [] ∧ scan.regions.map Region.targets = [[Text.ofString "a.sh"]] := by
  refine ⟨"# - ", "push.sh", ?_⟩
  decide +kernel

end Lockstep.Line
