import Mathlib.Data.List.DropRight
import Lockstep.Proofs.Confinement
import Lockstep.Proofs.Recognition

/-! Targets as seen from the file that declares them. A plain target names a file beside the
declaring one, or below: the directory of the file, a slash, and the target. Blanks around a target
are no part of it; but they are looked for when the directory stands before the target already, and
a directory whose name begins with a blank loses it. -/
namespace Lockstep

theorem length_joinWith_le {separator : Text} {part whole : List Text} (h : part.Sublist whole) :
    (Text.joinWith separator part).length ≤ (Text.joinWith separator whole).length := by
  have length_cons (t : Text) (ts : List Text) :
      (Text.joinWith separator (t :: ts)).length =
        t.length +
          if ts = [] then 0 else separator.length + (Text.joinWith separator ts).length := by
    cases ts with
    | nil => simp [Text.joinWith]
    | cons u ts => simp [Text.joinWith]
  induction h with
  | slnil => exact Nat.le_refl _
  | @cons part whole t sub ih =>
    rw [length_cons]
    split
    next empty =>
      rw [empty, List.sublist_nil] at sub
      simp [sub, Text.joinWith]
    next => omega
  | @cons_cons part whole t sub ih =>
    rw [length_cons, length_cons]
    by_cases none : whole = []
    · rw [none, List.sublist_nil] at sub
      rw [sub, none]
    · rw [if_neg none]
      split
      · omega
      · omega

namespace Path

section Names

variable {cs : List Text} {p q : Path}

theorem depth_of_names (names : parent ∉ cs) : depth cs = cs.length := by
  induction cs using List.reverseRecOn with
  | nil => rfl
  | append_singleton cs c ih =>
    rw [List.mem_append, List.mem_singleton, not_or] at names
    rw [depth_append, ih names.1, depth_name (Ne.symm names.2), List.length_append]
    rfl

theorem staysInside_of_names (names : parent ∉ cs) : StaysInside cs := by
  intro front within
  rw [depth_of_names fun climb => names (within.subset climb)]
  exact Int.natCast_nonneg _

theorem place_of_names (names : parent ∉ cs) : place cs = cs := by
  induction cs using List.reverseRecOn with
  | nil => rfl
  | append_singleton cs c ih =>
    rw [List.mem_append, List.mem_singleton, not_or] at names
    rw [place_concat, ih names.1, enter, if_neg (Ne.symm names.2)]

theorem joinWith_splitOn (p : Path) : Text.joinWith [slash] (p.splitOn slash) = p :=
  List.intercalate_splitOn slash

theorem normalize?_congr (same : p.strip = q.strip) : normalize? p = normalize? q := by
  unfold normalize?
  rw [same]

theorem length_le_of_normalize? (h : normalize? p = some q) : q.length ≤ p.strip.length := by
  obtain ⟨-, -, -, -, rfl⟩ := normalize?_eq_some_iff.mp h
  have part : (place (components p.strip)).Sublist (p.strip.splitOn slash) :=
    (place_sublist _).trans List.filter_sublist
  calc (Text.joinWith [slash] (place (components p.strip))).length
      ≤ (Text.joinWith [slash] (p.strip.splitOn slash)).length := length_joinWith_le part
    _ = p.strip.length := by rw [joinWith_splitOn]

end Names

section Normal

variable {d t name : Path}

theorem IsNormal.components_eq (h : d.IsNormal) : components d = d.splitOn slash := by
  apply List.filter_eq_self.mpr
  intro c mem
  obtain ⟨some, other, -⟩ := h.named c mem
  simp [some, other]

theorem IsNormal.normalize?_eq (h : d.IsNormal) (trimmed : d.strip = d) :
    normalize? d = some d := by
  have names : parent ∉ d.splitOn slash := fun climb => (h.named parent climb).2.2 rfl
  rw [normalize?_eq_some_iff, trimmed, h.components_eq, place_of_names names, depth_of_names names]
  refine ⟨h.nonempty, h.relative, staysInside_of_names names, ?_, ?_⟩
  · exact Int.natCast_pos.mpr (List.length_pos_iff.mpr (List.splitOn_ne_nil slash d))
  · exact (joinWith_splitOn d).symm

theorem IsNormal.getLast?_ne (h : d.IsNormal) : d.getLast? ≠ some slash := by
  intro ends
  obtain ⟨front, rfl⟩ := List.getLast?_eq_some_iff.mp ends
  have empty : [] ∈ (front ++ [slash]).splitOn slash := by
    rw [List.splitOn_append_cons_self]
    simp
  exact (h.named [] empty).1 rfl

theorem IsNormal.append (base : d.IsNormal) (h : t.IsNormal) : IsNormal (d ++ slash :: t) := by
  refine ⟨by simp, ?_, ?_⟩
  · rw [isAbsolute, List.head?_append_of_ne_nil _ base.nonempty]
    exact base.relative
  · intro c mem
    rw [List.splitOn_append_cons_self, List.mem_append] at mem
    exact mem.elim (base.named c) (h.named c)

theorem directory_append (base : d.IsNormal) (isName : slash ∉ name) :
    directory (d ++ slash :: name) = d := by
  have head : ((d ++ slash :: name).reverse.dropWhile (· ≠ slash)).reverse = d ++ [slash] := by
    have within : ∀ g ∈ name.reverse, decide (g ≠ slash) = true := by
      intro g mem
      rw [decide_eq_true_eq]
      rintro rfl
      exact isName (List.mem_reverse.mp mem)
    rw [List.reverse_append, List.reverse_cons, List.append_assoc,
      List.dropWhile_append_of_pos within]
    simp
  have other : (d ++ [slash]).all (· = slash) ≠ true := by
    obtain ⟨g, tail, rfl⟩ := List.exists_cons_of_ne_nil base.nonempty
    have relative := base.relative
    simp only [isAbsolute, List.head?_cons, Option.some.injEq, decide_eq_false_iff_not] at relative
    simp [relative]
  unfold directory
  dsimp only
  rw [head, if_neg other, Text.trimEnd_append (by simp)]
  apply Text.trimEnd_eq_self
  intro g last
  rw [decide_eq_false_iff_not]
  rintro rfl
  exact base.getLast?_ne last

theorem join_of_isNormal (base : d.IsNormal) (h : t.IsNormal) : join d t = d ++ slash :: t := by
  unfold join
  rw [if_neg (by simp [h.relative]), if_neg]
  · simp
  · simp [base.nonempty, base.getLast?_ne]

end Normal

section Beside

variable {d t name : Path} (base : d.IsNormal) (plain : t.IsNormal)

include base plain

theorem resolve_file (isName : slash ∉ name) (known : Path → Bool) :
    resolve .file known (d ++ slash :: name) t = normalize? (d ++ slash :: t) := by
  rw [resolve, directory_append base isName, join_of_isNormal base plain]

variable (ends : ∀ g ∈ t.getLast?, g.isBlank = false)

include ends

omit base in
theorem strip_append (d : Path) :
    Text.strip (d ++ slash :: t) = d.dropWhile Glyph.isBlank ++ slash :: t := by
  apply Text.strip_eq_iff.mpr
  refine ⟨d.takeWhile Glyph.isBlank, [], ?_, ?_, nofun, ?_, ?_⟩
  · rw [List.append_nil, ← List.append_assoc, List.takeWhile_append_dropWhile]
  · exact fun g mem => List.mem_takeWhile_imp mem
  · intro g first
    cases bare : d.dropWhile Glyph.isBlank with
    | nil =>
      rw [bare] at first
      cases first
      rfl
    | cons h rest =>
      rw [bare] at first
      apply @Text.head?_dropWhile Glyph.isBlank d
      rw [bare]
      exact first
  · intro g last
    rw [List.getLast?_append_of_ne_nil _ (List.cons_ne_nil _ _),
      ← List.singleton_append, List.getLast?_append_of_ne_nil _ plain.nonempty] at last
    exact ends g last

theorem normalize?_append_iff :
    normalize? (d ++ slash :: t) = some (d ++ slash :: t) ↔
      ∀ g ∈ d.head?, g.isBlank = false := by
  have trimmed := strip_append plain ends d
  constructor
  -- A blank that is lost leaves a path that is too short for this plain form.
  · intro own g first
    have short := length_le_of_normalize? own
    rw [trimmed] at short
    obtain ⟨rest, rfl⟩ := List.head?_eq_some_iff.mp first
    refine Bool.eq_false_iff.mpr fun blank => ?_
    rw [List.dropWhile_cons_of_pos blank] at short
    have shorter := (List.dropWhile_suffix Glyph.isBlank (l := rest)).length_le
    simp only [List.length_append, List.length_cons] at short
    omega
  · intro begins
    rw [dropWhile_of_head begins] at trimmed
    exact (base.append plain).normalize?_eq trimmed

theorem resolve_auto (isName : slash ∉ name) {known : Path → Bool}
    (begins : ∀ g ∈ t.head?, g.isBlank = false) (beside : known (d ++ slash :: t) = true)
    (notThere : known t = false) :
    resolve .auto known (d ++ slash :: name) t = some (d ++ slash :: t) ↔
      normalize? (d ++ slash :: t) = some (d ++ slash :: t) := by
  have trimmed : t.strip = t := by
    rw [Text.strip, Text.trim, dropWhile_of_head begins, Text.trimEnd_eq_self ends]
  have other : t ≠ d ++ slash :: t := by
    intro same
    have := congrArg List.length same
    rw [List.length_append, List.length_cons] at this
    omega
  rw [resolve, directory_append base isName, join_of_isNormal base plain,
    plain.normalize?_eq trimmed]
  simp only [Option.any_some, notThere, Bool.false_eq_true, if_false, Option.some_or]
  -- If what is found beside is not known, the target names the file at the root, known or not.
  by_cases found : (normalize? (d ++ slash :: t)).any known = true
  · rw [if_pos found]
  · rw [if_neg found]
    constructor
    · exact fun same => absurd (Option.some.inj same) other
    · intro own
      rw [own, Option.any_some] at found
      exact absurd beside found

end Beside

/-- From a file of a directory, a target without detours names the file of this name below the
directory, just if the name of the directory does not begin with a blank; and likewise where the
root comes first, if there is no such file at the root. Blanks that the directory begins with are
lost. -/
theorem resolve_beside (known : Path → Bool) (d name t : Path) (base : d.IsNormal)
    (isName : slash ∉ name) (plain : t.IsNormal) (begins : ∀ g ∈ t.head?, g.isBlank = false)
    (ends : ∀ g ∈ t.getLast?, g.isBlank = false) :
    (resolve .file known (d ++ slash :: name) t = some (d ++ slash :: t) ↔
      ∀ g ∈ d.head?, g.isBlank = false) ∧
      (known (d ++ slash :: t) = true → known t = false →
        (resolve .auto known (d ++ slash :: name) t = some (d ++ slash :: t) ↔
          ∀ g ∈ d.head?, g.isBlank = false)) ∧
      resolve .file known (d ++ slash :: name) t =
        normalize? (d.dropWhile Glyph.isBlank ++ slash :: t) := by
  have own := normalize?_append_iff base plain ends
  rw [resolve_file base plain isName]
  refine ⟨own, ?_, ?_⟩
  · intro beside notThere
    exact (resolve_auto base plain ends isName begins beside notThere).trans own
  · apply normalize?_congr
    rw [strip_append plain ends d, strip_append plain ends (d.dropWhile Glyph.isBlank),
      List.dropWhile_idempotent]

theorem resolve_beside_in_two_words :
    let d : Path := "my docs"
    let known (p : Path) : Bool := p = "my docs/b"
    d.IsNormal ∧ IsNormal "b" ∧ known "b" = false ∧
      resolve .file known "my docs/a" "b" = some "my docs/b" ∧
      resolve .auto known "my docs/a" "b" = some "my docs/b" := by
  intro d known
  have base : d.IsNormal := ⟨by decide, by decide, by decide⟩
  have plain : IsNormal "b" := ⟨by decide, by decide, by decide⟩
  obtain ⟨fromFile, fromRoot, -⟩ :=
    resolve_beside known d "a" "b" base (by decide) plain (by decide) (by decide)
  have solid : ∀ g ∈ d.head?, g.isBlank = false := by decide
  exact ⟨base, plain, by decide, fromFile.mpr solid, (fromRoot (by decide) (by decide)).mpr solid⟩

/-- A directory whose name begins with a blank. A file beside the declaring one is not found: the
file of this name in another directory is named instead, or one at the root. -/
theorem resolve_beside_loses_blank :
    IsNormal " d" ∧ IsNormal "b" ∧ resolve .file (fun _ => false) " d/a" "b" = some "d/b" ∧
      resolve .auto (fun p => p = " d/b") " d/a" "b" = some "b" :=
  ⟨⟨by decide, by decide, by decide⟩, ⟨by decide, by decide, by decide⟩, by decide, by decide⟩

end Path
end Lockstep
