import Mathlib.Data.List.TakeWhile
import Lockstep.Proofs.Marking

/-! Which lines are directives, said without a search. Only the first occurrence of a marker is
looked at, and this loses nothing: behind filler, a marker with a letter stands at one place at
most. What keeps a marker from being recognised is another one inside of it, with nothing but
punctuation around. -/
namespace Lockstep

theorem Glyph.isPunct_of_isFiller {g : Glyph} (filler : g.isFiller = true)
    (solid : g.isBlank = false) : g.isPunct = true := by
  refine (isBlank_or_isPunct_of_isFiller filler).resolve_left fun blank => ?_
  rw [solid] at blank
  cases blank

namespace Text

def EndsTrimmed (p : Glyph → Bool) (t kept : Text) : Prop :=
  ∃ tail, t = kept ++ tail ∧ (∀ g ∈ tail, p g = true) ∧ ∀ g ∈ kept.getLast?, p g = false

def Stripped (t bare : Text) : Prop :=
  ∃ front back, t = front ++ (bare ++ back) ∧ (∀ g ∈ front, g.isBlank = true) ∧
    (∀ g ∈ back, g.isBlank = true) ∧ (∀ g ∈ bare.head?, g.isBlank = false) ∧
    ∀ g ∈ bare.getLast?, g.isBlank = false

theorem head?_dropWhile {p : Glyph → Bool} {t : Text} :
    ∀ g ∈ (t.dropWhile p).head?, p g = false := by
  intro g hg
  have stops := List.head?_dropWhile_not p t
  rw [Option.mem_def.mp hg] at stops
  exact stops

theorem trimEnd_eq_iff {p : Glyph → Bool} {t kept : Text} :
    t.trimEnd p = kept ↔ t.EndsTrimmed p kept := by
  constructor
  · rintro rfl
    refine ⟨(t.reverse.takeWhile p).reverse, ?_, ?_, ?_⟩
    · rw [trimEnd, ← List.reverse_append, List.takeWhile_append_dropWhile, List.reverse_reverse]
    · intro g hg
      exact List.mem_takeWhile_imp (List.mem_reverse.mp hg)
    · rw [trimEnd, List.getLast?_reverse]
      exact head?_dropWhile
  · rintro ⟨tail, rfl, trimmed, last⟩
    rw [trimEnd_append trimmed, trimEnd_eq_self last]

theorem trimEnd_eq_nil_iff {p : Glyph → Bool} {t : Text} :
    t.trimEnd p = [] ↔ ∀ g ∈ t, p g = true := by
  simp [trimEnd, List.dropWhile_eq_nil_iff]

theorem strip_eq_iff {t bare : Text} : t.strip = bare ↔ t.Stripped bare := by
  constructor
  · intro strips
    obtain ⟨back, rest, blank, last⟩ := trimEnd_eq_iff.mp strips
    refine ⟨t.takeWhile Glyph.isBlank, back, ?_, ?_, blank, ?_, last⟩
    · rw [← rest, List.takeWhile_append_dropWhile]
    · intro g hg
      exact List.mem_takeWhile_imp hg
    · intro g hg
      apply @head?_dropWhile Glyph.isBlank t
      rw [rest, List.head?_append, Option.mem_def.mp hg]
      rfl
  · rintro ⟨front, back, rfl, blankFront, blankBack, first, last⟩
    rw [strip, trim]
    cases bare with
    | nil =>
      have all : ∀ g ∈ front ++ ([] ++ back), g.isBlank = true := by
        intro g hg
        exact (List.mem_append.mp hg).elim (blankFront g) (blankBack g)
      rw [List.dropWhile_eq_nil_iff.mpr all]
      rfl
    | cons g bare =>
      have begins : ∀ l ∈ (g :: bare ++ back).head?, l.isBlank = false := first
      rw [dropWhile_run blankFront begins, trimEnd_append blankBack, trimEnd_eq_self last]

theorem exists_cut? {word t before after : Text} (occurs : t = before ++ (word ++ after)) :
    ∃ lead tail, cut? word t = some (lead, tail) ∧ lead <+: before := by
  induction t generalizing before with
  | nil =>
    obtain ⟨rfl, rest⟩ := List.append_eq_nil_iff.mp occurs.symm
    obtain ⟨rfl, rfl⟩ := List.append_eq_nil_iff.mp rest
    exact ⟨[], [], rfl, List.prefix_refl _⟩
  | cons g t ih =>
    unfold cut?
    split
    case isTrue => exact ⟨[], _, rfl, List.nil_prefix⟩
    case isFalse unlike =>
      cases before with
      | nil =>
        rw [List.nil_append] at occurs
        rw [occurs, List.isPrefixOf_iff_prefix] at unlike
        exact absurd (List.prefix_append word after) unlike
      | cons b before =>
        obtain ⟨rfl, rest⟩ := List.cons.inj (occurs.trans List.cons_append)
        obtain ⟨lead, tail, cut, first⟩ := ih rest
        exact ⟨g :: lead, tail, by rw [cut]; rfl, (List.prefix_cons_inj g).mpr first⟩

theorem occurrence_unique {word lead tail other behind : Text}
    (lettered : ∃ g ∈ word, g.isFiller = false) (filler : ∀ g ∈ lead, g.isFiller = true)
    (fillerOther : ∀ g ∈ other, g.isFiller = true)
    (same : lead ++ (word ++ tail) = other ++ (word ++ behind)) : lead = other ∧ tail = behind := by
  -- The filler at the beginning of the line ends inside the word, at the same place of it.
  have ends (after : Text) :
      (word ++ after).takeWhile Glyph.isFiller = word.takeWhile Glyph.isFiller := by
    rw [List.takeWhile_append, if_neg]
    intro whole
    obtain ⟨g, mem, letter⟩ := lettered
    rw [← (List.takeWhile_prefix Glyph.isFiller).eq_of_length whole] at mem
    rw [List.mem_takeWhile_imp mem] at letter
    cases letter
  have runs := congrArg (List.takeWhile Glyph.isFiller) same
  rw [List.takeWhile_append_of_pos filler, List.takeWhile_append_of_pos fillerOther, ends,
    ends] at runs
  obtain rfl := List.append_cancel_right runs
  exact ⟨rfl, List.append_cancel_left (List.append_cancel_left same)⟩

theorem filler_behind {word lead behind other tail : Text}
    (filler : ∀ g ∈ lead, g.isFiller = true) (fillerBehind : ∀ g ∈ behind, g.isFiller = true)
    (fillerOther : ∀ g ∈ other, g.isFiller = true)
    (same : lead ++ (word ++ behind) = other ++ (word ++ tail)) :
    ∀ g ∈ tail, g.isFiller = true := by
  by_cases lettered : ∃ l ∈ word, l.isFiller = false
  · obtain ⟨-, rfl⟩ := occurrence_unique lettered filler fillerOther same
    exact fillerBehind
  -- A word that is all filler may occur at several places, but then all of the line is filler.
  · intro g hg
    have onLine : g ∈ lead ++ (word ++ behind) := by
      rw [same]
      simp [hg]
    rcases List.mem_append.mp onLine with inLead | others
    · exact filler g inLead
    rcases List.mem_append.mp others with inWord | inBehind
    · exact Bool.of_not_eq_false fun letter => lettered ⟨g, inWord, letter⟩
    · exact fillerBehind g inBehind

def Wraps (t word : Text) : Prop :=
  ∃ before after, t = before ++ (word ++ after) ∧ (∀ g ∈ before, g.isPunct = true) ∧
    ∀ g ∈ after, g.isPunct = true

theorem wraps_self (t : Text) : t.Wraps t := ⟨[], [], by simp, nofun, nofun⟩

theorem exists_behind {lead other before word after : Text}
    (ends : ∀ g ∈ lead.getLast?, g.isBlank = true) (solid : ∀ g ∈ word, g.isBlank = false)
    (absent : ¬ word <:+: lead) (same : lead ++ other = before ++ (word ++ after)) :
    ∃ between, before = lead ++ between ∧ other = between ++ (word ++ after) := by
  rcases List.append_eq_append_iff.mp same with ⟨between, behind, rest⟩ | ⟨cut, inside, rest⟩
  · exact ⟨between, behind, rest⟩
  by_cases whole : cut = []
  · subst whole
    exact ⟨[], by simpa using inside.symm, rest.symm⟩
  -- An occurrence that begins in the text ends in it, or has its last place, which is a blank.
  exfalso
  rcases List.append_eq_append_iff.mp rest with ⟨more, within, -⟩ | ⟨more, part, -⟩
  · rw [inside, within] at absent
    exact absent (List.infix_append' before word more)
  · have last : lead.getLast? = some (cut.getLast whole) := by
      rw [inside, List.getLast?_append_of_ne_nil before whole, List.getLast?_eq_some_getLast whole]
    have blank := ends _ last
    have mem : cut.getLast whole ∈ word := by
      rw [part]
      exact List.mem_append_left more (List.getLast_mem whole)
    rw [solid _ mem] at blank
    cases blank

end Text

namespace Line

/-- Whether a line is a directive of a word that says `said`. It has the word, at whichever place,
behind nothing but filler; what follows, less the filler at its end, is nothing or begins with a
blank; and it is `said` with blanks around. -/
def Directs (word line said : Text) : Prop :=
  ∃ lead tail rest, line = lead ++ (word ++ tail) ∧ (∀ g ∈ lead, g.isFiller = true) ∧
    tail.EndsTrimmed Glyph.isFiller rest ∧ (∀ g ∈ rest.head?, g.isBlank = true) ∧
    rest.Stripped said

variable {word line said : Text}

theorem remainder?_eq_some :
    remainder? word line = some said ↔
      ∃ lead tail, Text.cut? word line = some (lead, tail) ∧ (∀ g ∈ lead, g.isFiller = true) ∧
        (∀ g ∈ tail.dropFillerEnd.head?, g.isBlank = true) ∧ tail.dropFillerEnd.strip = said := by
  unfold remainder?
  cases Text.cut? word line with
  | none => simp
  | some parts =>
    obtain ⟨lead, tail⟩ := parts
    simp only [Option.some.injEq, Prod.mk.injEq, and_assoc, exists_and_left, exists_eq_left',
      isCommentLead, List.all_eq_true, Option.ite_none_right_eq_some]
    refine and_congr_right fun _ => ?_
    cases tail.dropFillerEnd with
    | nil => simp [Text.strip, Text.trim, Text.trimEnd]
    | cons g rest =>
      by_cases blank : g.isBlank = true
      · simp [blank]
      · simp [blank]

theorem remainder?_eq_some_iff (lettered : ∃ g ∈ word, g.isFiller = false) :
    remainder? word line = some said ↔ Directs word line said := by
  rw [remainder?_eq_some]
  constructor
  · rintro ⟨lead, tail, cut, filler, blank, strips⟩
    exact ⟨lead, tail, _, (Text.eq_of_cut? cut).trans (List.append_assoc _ _ _), filler,
      Text.trimEnd_eq_iff.mp rfl, blank, Text.strip_eq_iff.mp strips⟩
  · rintro ⟨lead, tail, rest, rfl, filler, trimmed, blank, stripped⟩
    obtain ⟨first, behind, cut, before⟩ := @Text.exists_cut? word _ lead tail rfl
    have fillerFirst : ∀ g ∈ first, g.isFiller = true := fun g hg => filler g (before.subset hg)
    have same := (Text.eq_of_cut? cut).trans (List.append_assoc _ _ _)
    obtain ⟨rfl, rfl⟩ := Text.occurrence_unique lettered filler fillerFirst same
    refine ⟨lead, tail, cut, filler, ?_⟩
    rw [Text.dropFillerEnd, Text.trimEnd_eq_iff.mpr trimmed]
    exact ⟨blank, Text.strip_eq_iff.mpr stripped⟩

section Kinds

variable {m : Markers}

theorem classify_eq_opens_iff :
    classify m line = .opens ↔ ∃ said, remainder? m.opens line = some said := by
  unfold classify
  cases remainder? m.opens line with
  | none =>
    cases remainder? m.declares line with
    | none => cases remainder? m.closes line <;> simp
    | some said => cases said <;> simp
  | some said => simp

variable (unopened : remainder? m.opens line = none)

include unopened

theorem classify_eq_declaresList_iff :
    classify m line = .declaresList ↔ remainder? m.declares line = some [] := by
  unfold classify
  rw [unopened]
  cases remainder? m.declares line with
  | none => cases remainder? m.closes line <;> simp
  | some said => cases said <;> simp

theorem classify_eq_declares_iff {target : Text} :
    classify m line = .declares target ↔
      target ≠ [] ∧ remainder? m.declares line = some target := by
  unfold classify
  rw [unopened]
  cases remainder? m.declares line with
  | none => cases remainder? m.closes line <;> simp
  | some said =>
    cases said with
    | nil => simp
    | cons g said =>
      simp only [Option.isSome_none, Bool.false_eq_true, if_false, LineKind.declares.injEq,
        Option.some.injEq]
      constructor
      · rintro rfl
        exact ⟨List.cons_ne_nil _ _, rfl⟩
      · exact fun h => h.2

theorem classify_undeclared (undeclared : remainder? m.declares line = none) :
    classify m line = if (remainder? m.closes line).isSome then .closes else .source := by
  unfold classify
  rw [unopened, undeclared]
  rfl

end Kinds

/-- Where every marker has more than punctuation, the kind of a line is what its directives say,
taken at all places of the line. A marker says one thing at most; a directive of the opening marker
wins over one of the declaring marker, and that over one of the closing marker. -/
theorem classify_of_directs (m : Markers)
    (lettered : ∀ word ∈ m.words, ∃ g ∈ word, g.isPunct = false) (line : Text) :
    (∀ word ∈ m.words, ∀ said other,
      Directs word line said → Directs word line other → said = other) ∧
      (classify m line = .opens ↔ ∃ said, Directs m.opens line said) ∧
      ((¬ ∃ said, Directs m.opens line said) →
        (classify m line = .declaresList ↔ Directs m.declares line []) ∧
          (∀ target, classify m line = .declares target ↔
            target ≠ [] ∧ Directs m.declares line target) ∧
          ((¬ ∃ said, Directs m.declares line said) →
            (classify m line = .closes ↔ ∃ said, Directs m.closes line said) ∧
              (classify m line = .source ↔ ¬ ∃ said, Directs m.closes line said))) := by
  have found (word : Text) (mem : word ∈ m.words) (said : Text) :
      remainder? word line = some said ↔ Directs word line said := by
    apply remainder?_eq_some_iff
    obtain ⟨g, inWord, letter⟩ := lettered word mem
    refine ⟨g, inWord, Bool.eq_false_iff.mpr fun filler => ?_⟩
    have solid := (Markers.solid_of_mem_words mem).2 g inWord
    rw [Glyph.isPunct_of_isFiller filler solid] at letter
    cases letter
  have opens := found m.opens (by simp [Markers.words])
  have declares := found m.declares (by simp [Markers.words])
  have closes := found m.closes (by simp [Markers.words])
  simp only [← opens, ← declares, ← closes]
  refine ⟨?_, classify_eq_opens_iff, fun unopened => ?_⟩
  · intro word mem said other first second
    rw [← found word mem] at first second
    exact Option.some.inj (first.symm.trans second)
  replace unopened := Option.eq_none_iff_forall_ne_some.mpr (not_exists.mp unopened)
  refine ⟨classify_eq_declaresList_iff unopened, fun _ => classify_eq_declares_iff unopened,
    fun undeclared => ?_⟩
  replace undeclared := Option.eq_none_iff_forall_ne_some.mpr (not_exists.mp undeclared)
  rw [classify_undeclared unopened undeclared]
  cases remainder? m.closes line with
  | none => simp
  | some said => simp

theorem classify_of_directs_twice :
    let m : Markers := { opens := "=if=", declares := "=do=", closes := "=end=" }
    let line : Text := "# =do= =do= y"
    (∀ word ∈ m.words, ∃ g ∈ word, g.isPunct = false) ∧ classify m line = .declares "=do= y" ∧
      Directs m.declares line "=do= y" ∧ ¬ ∃ said, Directs m.opens line said := by
  intro m line
  have lettered : ∀ word ∈ m.words, ∃ g ∈ word, g.isPunct = false := by decide
  have kind : classify m line = .declares "=do= y" := by decide +kernel
  obtain ⟨-, opens, others⟩ := classify_of_directs m lettered line
  have unopened : ¬ ∃ said, Directs m.opens line said := by
    rw [← opens, kind]
    nofun
  exact ⟨lettered, kind, (((others unopened).2.1 _).mp kind).2, unopened⟩

section Lead

variable {lead other : Text} (filler : isCommentLead lead = true)

include filler

theorem remainder?_of_wraps (wraps : other.Wraps word) :
    remainder? word (lead ++ other) = some [] := by
  obtain ⟨between, behind, rfl, punct, punctBehind⟩ := wraps
  have front : ∀ g ∈ lead ++ between, g.isFiller = true := by
    intro g hg
    rcases List.mem_append.mp hg with inLead | inBetween
    · exact List.all_eq_true.mp filler g inLead
    · exact Glyph.isFiller_of_isPunct (punct g inBetween)
  have back : ∀ g ∈ behind, g.isFiller = true := by
    intro g hg
    exact Glyph.isFiller_of_isPunct (punctBehind g hg)
  have occurs := (List.append_assoc lead between (word ++ behind)).symm
  obtain ⟨first, tail, cut, before⟩ := Text.exists_cut? occurs
  have fillerFirst : ∀ g ∈ first, g.isFiller = true := fun g hg => front g (before.subset hg)
  have same := occurs.symm.trans ((Text.eq_of_cut? cut).trans (List.append_assoc _ _ _))
  have gone := Text.trimEnd_eq_nil_iff.mpr (Text.filler_behind front back fillerFirst same)
  refine remainder?_eq_some.mpr ⟨first, tail, cut, fillerFirst, ?_, ?_⟩
  · rw [Text.dropFillerEnd, gone]
    intro g none
    cases none
  · rw [Text.dropFillerEnd, gone]
    rfl

variable (ends : ∀ g ∈ lead.getLast?, g.isBlank = true)

include ends

theorem remainder?_lead_iff (solid : ∀ g ∈ word, g.isBlank = false)
    (solidOther : ∀ g ∈ other, g.isBlank = false) (absent : ¬ word <:+: lead) :
    remainder? word (lead ++ other) = some said ↔ said = [] ∧ other.Wraps word := by
  constructor
  · intro reads
    obtain ⟨before, after, cut, fillerBefore, blank, strips⟩ := remainder?_eq_some.mp reads
    have same := (Text.eq_of_cut? cut).trans (List.append_assoc _ _ _)
    obtain ⟨between, rfl, rfl⟩ := Text.exists_behind ends solid absent same
    have solidAfter : ∀ g ∈ after, g.isBlank = false := fun g hg => solidOther g (by simp [hg])
    -- What is left of a marker behind another one has no blank to begin with.
    have gone : after.dropFillerEnd = [] := by
      cases left : after.dropFillerEnd with
      | nil => rfl
      | cons g rest =>
        have mem : g ∈ after.dropFillerEnd := by simp [left]
        rw [left] at blank
        have first := blank g rfl
        rw [solidAfter g ((Text.trimEnd_prefix _ after).subset mem)] at first
        cases first
    rw [gone] at strips
    refine ⟨strips.symm, between, after, rfl, ?_, ?_⟩
    · intro g hg
      exact Glyph.isPunct_of_isFiller (fillerBefore g (by simp [hg])) (solidOther g (by simp [hg]))
    · intro g hg
      exact Glyph.isPunct_of_isFiller (Text.trimEnd_eq_nil_iff.mp gone g hg) (solidAfter g hg)
  · rintro ⟨rfl, wraps⟩
    exact remainder?_of_wraps filler wraps

variable {m : Markers} (absent : ∀ word ∈ m.words, ¬ word <:+: lead)

include absent

theorem classify_lead (mem : other ∈ m.words) :
    (classify m (lead ++ other) = .opens ↔ other.Wraps m.opens) ∧
      (classify m (lead ++ other) = .declaresList ↔
        ¬ other.Wraps m.opens ∧ other.Wraps m.declares) ∧
      (classify m (lead ++ other) = .closes ↔
        ¬ other.Wraps m.opens ∧ ¬ other.Wraps m.declares ∧ other.Wraps m.closes) := by
  have reads (word : Text) (isMarker : word ∈ m.words) (said : Text) :
      remainder? word (lead ++ other) = some said ↔ said = [] ∧ other.Wraps word :=
    remainder?_lead_iff filler ends (Markers.solid_of_mem_words isMarker).2
      (Markers.solid_of_mem_words mem).2 (absent word isMarker)
  have silent (word : Text) (isMarker : word ∈ m.words) (apart : ¬ other.Wraps word) :
      remainder? word (lead ++ other) = none := by
    refine Option.eq_none_iff_forall_ne_some.mpr fun said found => ?_
    exact apart ((reads word isMarker said).mp found).2
  have opens := reads m.opens (by simp [Markers.words])
  have declares := reads m.declares (by simp [Markers.words])
  have closes := reads m.closes (by simp [Markers.words])
  by_cases first : other.Wraps m.opens
  · have kind := classify_eq_opens_iff.mpr ⟨[], (opens []).mpr ⟨rfl, first⟩⟩
    simp [kind, first]
  have unopened := silent m.opens (by simp [Markers.words]) first
  by_cases second : other.Wraps m.declares
  · have kind := (classify_eq_declaresList_iff unopened).mpr ((declares []).mpr ⟨rfl, second⟩)
    simp [kind, first, second]
  have undeclared := silent m.declares (by simp [Markers.words]) second
  have kind := classify_undeclared unopened undeclared
  by_cases third : other.Wraps m.closes
  · rw [(closes []).mpr ⟨rfl, third⟩] at kind
    simp [kind, first, second, third]
  · rw [silent m.closes (by simp [Markers.words]) third] at kind
    simp [kind, first, second, third]

end Lead

/-- Behind a comment's opening that has no marker inside, each of three markers is taken for the
first one that it has inside with nothing but punctuation around. So the markers are told apart just
if no later one is an earlier one with punctuation around. -/
theorem markers_told_apart_iff (m : Markers) (lead : Text) (filler : isCommentLead lead = true)
    (ends : ∀ g ∈ lead.getLast?, g.isBlank = true) (absent : ∀ word ∈ m.words, ¬ word <:+: lead) :
    (∀ word ∈ m.words,
      (classify m (lead ++ word) = .opens ↔ word.Wraps m.opens) ∧
        (classify m (lead ++ word) = .declaresList ↔
          ¬ word.Wraps m.opens ∧ word.Wraps m.declares) ∧
        (classify m (lead ++ word) = .closes ↔
          ¬ word.Wraps m.opens ∧ ¬ word.Wraps m.declares ∧ word.Wraps m.closes)) ∧
      classify m (lead ++ m.opens) = .opens ∧
      (classify m (lead ++ m.declares) = .declaresList ↔ ¬ m.declares.Wraps m.opens) ∧
      (classify m (lead ++ m.closes) = .closes ↔
        ¬ m.closes.Wraps m.opens ∧ ¬ m.closes.Wraps m.declares) := by
  have kinds (word : Text) (mem : word ∈ m.words) := classify_lead filler ends absent mem
  refine ⟨kinds, ?_, ?_, ?_⟩
  · exact (kinds m.opens (by simp [Markers.words])).1.mpr (Text.wraps_self _)
  · rw [(kinds m.declares (by simp [Markers.words])).2.1, and_iff_left (Text.wraps_self _)]
  · rw [(kinds m.closes (by simp [Markers.words])).2.2, and_iff_left (Text.wraps_self _)]

theorem markers_told_apart_iff_standard :
    let m : Markers := .standard
    let lead : Text := "<!-- "
    isCommentLead lead = true ∧ (∀ g ∈ lead.getLast?, g.isBlank = true) ∧
      (∀ word ∈ m.words, ¬ word <:+: lead) ∧ ¬ m.declares.Wraps m.opens ∧
      ¬ m.closes.Wraps m.opens ∧ ¬ m.closes.Wraps m.declares := by
  intro m lead
  have filler : isCommentLead lead = true := by decide
  have ends : ∀ g ∈ lead.getLast?, g.isBlank = true := by decide
  have absent : ∀ word ∈ m.words, ¬ word <:+: lead := by decide
  obtain ⟨-, -, declares, closes⟩ := markers_told_apart_iff m lead filler ends absent
  have apart := declares.mp (by decide +kernel)
  exact ⟨filler, ends, absent, apart, closes.mp (by decide +kernel)⟩

/-- Three words that are accepted as markers, and a line with nothing but the declaring one that is
taken for an opening line. -/
theorem declaring_marker_opens :
    ∃ m lead, Markers.ofWords "@lock" "@lock:" "@end" = .ok m ∧ isCommentLead lead = true ∧
      (∀ g ∈ lead.getLast?, g.isBlank = true) ∧ (∀ word ∈ m.words, ¬ word <:+: lead) ∧
      classify m (lead ++ m.declares) = .opens := by
  refine ⟨{ opens := "@lock", declares := "@lock:", closes := "@end" }, "# ", ?_⟩
  decide +kernel

end Line
end Lockstep
