import Mathlib.Data.List.Induction
import Mathlib.Data.List.Infix
import Lockstep.Path

/-! That a target stays within the repository. Its components are a walk from a directory, and its
plain form is the place where the walk ends. A walk that has left the directory keeps a climb at the
front of its plain form, whatever comes later; so a look at the front tells whether it ever did. -/
namespace Lockstep

theorem not_mem_of_mem_splitOn {α : Type} [BEq α] [LawfulBEq α] {separator : α} {xs piece : List α}
    (h : piece ∈ xs.splitOn separator) : separator ∉ piece := by
  induction xs generalizing piece with
  | nil =>
    rw [List.splitOn_nil, List.mem_singleton] at h
    simp [h]
  | cons x rest ih =>
    rw [List.splitOn_cons_eq_if_modifyHead] at h
    obtain ⟨first, others, split⟩ := List.exists_cons_of_ne_nil (List.splitOn_ne_nil separator rest)
    rw [split] at h ih
    split at h
    next =>
      rcases List.mem_cons.mp h with rfl | later
      · exact List.not_mem_nil
      · exact ih later
    next apart =>
      rw [List.modifyHead_cons] at h
      rcases List.mem_cons.mp h with rfl | later
      · rw [List.mem_cons, not_or]
        exact ⟨fun same => apart (by simp [same]), ih (by simp)⟩
      · exact ih (by simp [later])

namespace Path

/-- How far below its start a walk ends, or above it where this is negative: its names without its
climbs. -/
def depth (cs : List Text) : Int := cs.countP (· ≠ parent) - cs.countP (· = parent)

def StaysInside (cs : List Text) : Prop := ∀ front, front <+: cs → 0 ≤ depth front

/-- A step of a walk. A place is the names that lead to it. -/
def enter (place : List Text) (c : Text) : List Text :=
  if c = parent then place.dropLast else place ++ [c]

def place (cs : List Text) : List Text := cs.foldl enter []

/-- Whether a path leads to a place below its start without detours. -/
structure IsNormal (p : Path) : Prop where
  nonempty : p ≠ []
  relative : isAbsolute p = false
  named : ∀ c ∈ p.splitOn slash, c ≠ [] ∧ c ≠ here ∧ c ≠ parent

section Walk

variable {cs names above : List Text} {c : Text}

theorem depth_append (front cs : List Text) : depth (front ++ cs) = depth front + depth cs := by
  simp only [depth, List.countP_append]
  omega

theorem depth_parent : depth [parent] = -1 := rfl

theorem depth_name (h : c ≠ parent) : depth [c] = 1 := by simp [depth, h]

theorem staysInside_nil : StaysInside [] := by
  intro front within
  rw [List.prefix_nil.mp within]
  exact Int.le_refl 0

theorem staysInside_concat :
    StaysInside (cs ++ [c]) ↔ StaysInside cs ∧ 0 ≤ depth (cs ++ [c]) := by
  constructor
  · intro inside
    exact ⟨fun front within => inside front (within.trans (List.prefix_append cs [c])),
      inside _ (List.prefix_refl _)⟩
  · rintro ⟨inside, ends⟩ front within
    rcases List.prefix_concat_iff.mp within with rfl | earlier
    · exact ends
    · exact inside front earlier

theorem place_concat (cs : List Text) (c : Text) : place (cs ++ [c]) = enter (place cs) c := by
  rw [place, List.foldl_append]
  rfl

theorem place_sublist (cs : List Text) : (place cs).Sublist cs := by
  induction cs using List.reverseRecOn with
  | nil => exact .slnil
  | append_singleton cs c ih =>
    rw [place_concat, enter]
    split
    · exact (List.dropLast_sublist _).trans (ih.trans (List.sublist_append_left cs [c]))
    · exact ih.append (.refl [c])

theorem parent_not_mem_place (cs : List Text) : parent ∉ place cs := by
  induction cs using List.reverseRecOn with
  | nil => exact List.not_mem_nil
  | append_singleton cs c ih =>
    rw [place_concat, enter]
    split
    · exact fun member => ih ((List.dropLast_sublist _).subset member)
    next name =>
      rw [List.mem_append, List.mem_singleton, not_or]
      exact ⟨ih, Ne.symm name⟩

theorem length_place (inside : StaysInside cs) : ((place cs).length : Int) = depth cs := by
  induction cs using List.reverseRecOn with
  | nil => rfl
  | append_singleton cs c ih =>
    obtain ⟨before, ends⟩ := staysInside_concat.mp inside
    have length := ih before
    rw [place_concat, enter]
    by_cases climbs : c = parent
    · rw [climbs, depth_append, depth_parent] at ends ⊢
      rw [if_pos rfl, List.length_dropLast]
      omega
    · rw [if_neg climbs, depth_append, depth_name climbs, List.length_append, List.length_singleton]
      omega

theorem place_ne_nil_iff (inside : StaysInside cs) : place cs ≠ [] ↔ 0 < depth cs := by
  rw [← length_place inside, Int.natCast_pos, List.length_pos_iff]

theorem descend_reverse (noClimb : parent ∉ names) (room : c = parent → names ≠ []) :
    descend names.reverse c = (enter names c).reverse := by
  unfold descend enter
  by_cases climbs : c = parent
  · rw [if_pos climbs, if_pos climbs]
    obtain ⟨front, last, rfl⟩ := (List.eq_nil_or_concat names).resolve_left (room climbs)
    have name : last ≠ parent := by
      rintro rfl
      simp at noClimb
    simp [name]
  · rw [if_neg climbs, if_neg climbs, List.reverse_append]
    rfl

theorem getLast?_descend (left : above.getLast? = some parent) :
    (descend above c).getLast? = some parent := by
  unfold descend
  cases above with
  | nil => cases left
  | cons top rest =>
    have added : (c :: top :: rest).getLast? = some parent := left
    by_cases climbs : c = parent
    · rw [if_pos climbs]
      dsimp only
      by_cases remembered : top = parent
      · rwa [if_pos remembered]
      · rw [if_neg remembered]
        cases rest with
        | nil => exact absurd (Option.some.inj left) remembered
        | cons next rest => exact left
    · rwa [if_neg climbs]

theorem collapse_cases (cs : List Text) :
    (StaysInside cs ∧ collapse cs = place cs) ∨
      (¬ StaysInside cs ∧ (collapse cs).head? = some parent) := by
  -- The walk grows at its end, where both the stack and the place change.
  simp only [collapse, List.head?_reverse]
  induction cs using List.reverseRecOn with
  | nil => exact .inl ⟨staysInside_nil, rfl⟩
  | append_singleton cs c ih =>
    rw [List.foldl_append, List.foldl_cons, List.foldl_nil, staysInside_concat, place_concat]
    rcases ih with ⟨inside, stack⟩ | ⟨outside, left⟩
    · rw [List.reverse_eq_iff] at stack
      rw [stack]
      -- The one step that leads from inside to outside climbs where no name is left.
      by_cases leaves : c = parent ∧ place cs = []
      · obtain ⟨rfl, top⟩ := leaves
        have level : ¬ 0 < depth cs := fun below => (place_ne_nil_iff inside).mpr below top
        have above : ¬ 0 ≤ depth (cs ++ [parent]) := by
          rw [depth_append, depth_parent]
          omega
        rw [top]
        exact .inr ⟨fun stays => above stays.2, rfl⟩
      · rw [descend_reverse (parent_not_mem_place cs) fun climbs top => leaves ⟨climbs, top⟩,
          List.reverse_reverse]
        refine .inl ⟨⟨inside, ?_⟩, rfl⟩
        rw [depth_append]
        by_cases climbs : c = parent
        · have below := (place_ne_nil_iff inside).mp fun top => leaves ⟨climbs, top⟩
          rw [climbs, depth_parent]
          omega
        · have level := inside cs (List.prefix_refl cs)
          rw [depth_name climbs]
          omega
    · exact .inr ⟨fun stays => outside stays.1, getLast?_descend left⟩

end Walk

section Plain

variable {names : List Text} {p : Path}

theorem mem_components {c : Text} :
    c ∈ components p ↔ c ∈ p.splitOn slash ∧ c ≠ [] ∧ c ≠ here := by
  simp [components]

theorem splitOn_joinWith (some : names ≠ []) (whole : ∀ c ∈ names, slash ∉ c) :
    (Text.joinWith [slash] names).splitOn slash = names :=
  List.splitOn_intercalate slash whole some

theorem isNormal_joinWith (some : names ≠ []) (whole : ∀ c ∈ names, slash ∉ c)
    (named : ∀ c ∈ names, c ≠ [] ∧ c ≠ here ∧ c ≠ parent) :
    IsNormal (Text.joinWith [slash] names) := by
  have split := splitOn_joinWith some whole
  obtain ⟨first, rest, rfl⟩ := List.exists_cons_of_ne_nil some
  obtain ⟨g, tail, rfl⟩ := List.exists_cons_of_ne_nil (named first (by simp)).1
  have begins : (Text.joinWith [slash] ((g :: tail) :: rest)).head? = Option.some g := by
    cases rest with
    | nil => rfl
    | cons next rest => simp [Text.joinWith]
  have other : g ≠ slash := fun same => whole _ (List.mem_cons_self ..) (by simp [same])
  refine ⟨?_, ?_, by rwa [split]⟩
  · rintro empty
    rw [empty] at begins
    cases begins
  · rw [isAbsolute, begins]
    simpa using other

end Plain

/-- A path has a plain form just if it is relative and walking along it never leads above the start,
and in the end below it. The plain form names the place where the walk ends. -/
theorem normalize?_eq_some_iff {p q : Path} :
    normalize? p = some q ↔
      p.strip ≠ [] ∧ isAbsolute p.strip = false ∧ StaysInside (components p.strip) ∧
        0 < depth (components p.strip) ∧
        q = Text.joinWith [slash] (place (components p.strip)) := by
  unfold normalize?
  dsimp only
  by_cases unusable : (p.strip.isEmpty || isAbsolute p.strip) = true
  · rw [if_pos unusable]
    rw [Bool.or_eq_true, List.isEmpty_iff] at unusable
    constructor
    · exact nofun
    · rintro ⟨nonempty, relative, -⟩
      rcases unusable with empty | absolute
      · exact absurd empty nonempty
      · cases relative.symm.trans absolute
  rw [if_neg unusable]
  rw [Bool.or_eq_true, List.isEmpty_iff, not_or, Bool.not_eq_true] at unusable
  generalize components p.strip = cs
  rcases collapse_cases cs with ⟨inside, ends⟩ | ⟨outside, left⟩
  · rw [ends]
    cases names : place cs with
    | nil =>
      constructor
      · exact nofun
      · rintro ⟨-, -, -, below, -⟩
        exact absurd names ((place_ne_nil_iff inside).mpr below)
    | cons first rest =>
      have below : 0 < depth cs := (place_ne_nil_iff inside).mp (by simp [names])
      have name : first ≠ parent := by
        rintro rfl
        exact parent_not_mem_place cs (by simp [names])
      simp only [if_neg name, Option.some.injEq]
      constructor
      · rintro rfl
        exact ⟨unusable.1, unusable.2, inside, below, rfl⟩
      · rintro ⟨-, -, -, -, rfl⟩
        rfl
  · cases names : collapse cs with
    | nil =>
      rw [names] at left
      cases left
    | cons first rest =>
      rw [names] at left
      simp only [Option.some.inj left, if_true]
      constructor
      · exact nofun
      · rintro ⟨-, -, inside, -⟩
        exact absurd inside outside

section Target

variable {p q : Path}

theorem isNormal_of_normalize? (h : normalize? p = some q) :
    q.IsNormal ∧ q.splitOn slash = place (components p.strip) := by
  obtain ⟨-, -, inside, below, rfl⟩ := normalize?_eq_some_iff.mp h
  have some := (place_ne_nil_iff inside).mpr below
  have within {c : Text} (mem : c ∈ place (components p.strip)) :
      c ∈ p.strip.splitOn slash ∧ c ≠ [] ∧ c ≠ here :=
    mem_components.mp ((place_sublist _).subset mem)
  have whole (c : Text) (mem : c ∈ place (components p.strip)) : slash ∉ c :=
    not_mem_of_mem_splitOn (within mem).1
  refine ⟨isNormal_joinWith some whole ?_, splitOn_joinWith some whole⟩
  intro c mem
  refine ⟨(within mem).2.1, (within mem).2.2, ?_⟩
  rintro rfl
  exact parent_not_mem_place _ mem

theorem normalize?_of_resolve {mode : Resolution} {known : Path → Bool} {source : Path}
    {target : Text} (h : resolve mode known source target = some q) :
    normalize? target = some q ∨ normalize? (join (directory source) target) = some q := by
  cases mode with
  | root => exact .inl h
  | file => exact .inr h
  | auto =>
    simp only [resolve] at h
    split at h
    · exact .inl h
    · split at h
      · exact .inr h
      · exact (Option.or_eq_some_iff.mp h).imp id And.right

/-- A path has a plain form just if it is neither empty nor absolute, and walking along it never
leads above the start and in the end below it. The plain form names the place where the walk ends,
and nothing else. So whatever a target may say, it names nothing, or a place in the repository. -/
theorem targets_are_confined (p : Path) :
    (∀ q, normalize? p = some q ↔
      p.strip ≠ [] ∧ isAbsolute p.strip = false ∧ StaysInside (components p.strip) ∧
        0 < depth (components p.strip) ∧
        q = Text.joinWith [slash] (place (components p.strip))) ∧
      (∀ q, normalize? p = some q →
        q.IsNormal ∧ q.splitOn slash = place (components p.strip)) ∧
      ∀ mode known source q, resolve mode known source p = some q → q.IsNormal := by
  refine ⟨fun q => normalize?_eq_some_iff, fun q => isNormal_of_normalize?, ?_⟩
  intro mode known source q resolved
  rcases normalize?_of_resolve resolved with fromRoot | fromFile
  · exact (isNormal_of_normalize? fromRoot).1
  · exact (isNormal_of_normalize? fromFile).1

end Target

end Path
end Lockstep
