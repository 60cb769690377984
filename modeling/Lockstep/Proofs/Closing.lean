import Lockstep.Proofs.Grammar
import Lockstep.Proofs.Obligations

/-! Lists of targets that may end without a closing line. In a file that closes all of its lists, a
list that ends early has its closing line left over, so that this is reported; where nothing is
reported, the two ways to end a list find the same regions. -/
namespace Lockstep

/-- The lines of the list that a region ends with; none where its declaring line names the target.
-/
def Region.listLines (m : Markers) (r : Region) : List Text :=
  (((splitLines r.content).map lineText).dropWhile fun text =>
    Line.classify m text ≠ .declaresList).tail

namespace Scan

variable {implicitClose : Bool} {line : Nat}

def listed (own : List Reading) : List Reading := (own.dropWhile (· ≠ .declaresList)).tail

theorem listed_append {body : List Reading} (plain : ∀ r ∈ body, r.isDeclaration = false)
    (tail : List Reading) : listed (body ++ tail) = listed tail := by
  unfold listed
  rw [List.dropWhile_append_of_pos]
  intro r hr
  have := plain r hr
  cases r <;> simp_all [Reading.isDeclaration]

theorem listed_list {body : List Reading} (plain : ∀ r ∈ body, r.isDeclaration = false)
    (list : List Reading) : listed (body ++ .declaresList :: list) = list := by
  rw [listed_append plain]
  simp [listed]

theorem listed_subset_append (own behind : List Reading) : listed own ⊆ listed (own ++ behind) := by
  intro r hr
  unfold listed at hr ⊢
  have filled : own.dropWhile (· ≠ .declaresList) ≠ [] := by
    intro empty
    rw [empty] at hr
    cases hr
  rw [List.dropWhile_append, if_neg (by simpa using filled), List.tail_append_of_ne_nil filled]
  exact List.mem_append_left behind hr

def Block.Spans (line : Nat) (readings own : List Reading) (b : Block) : Prop :=
  ∃ before after, readings = before ++ .opens :: (own ++ after) ∧
    b = blockOf (line + before.length + 1) own

theorem Block.Spans.append {rest own : List Reading} {b : Block} (front : List Reading)
    (h : b.Spans (line + front.length) rest own) : b.Spans line (front ++ rest) own := by
  obtain ⟨before, after, rfl, rfl⟩ := h
  refine ⟨front ++ before, after, by simp, ?_⟩
  rw [List.length_append, ← Nat.add_assoc]

theorem Block.Spans.own_eq {readings own : List Reading} {b : Block} (h : b.Spans 1 readings own) :
    (readings.take b.lastLine).drop (b.firstLine - 1) = own := by
  obtain ⟨before, after, rfl, rfl⟩ := h
  simp only [blockOf]
  rw [show 1 + before.length + 1 + own.length - 1 = before.length + 1 + own.length by omega,
    show before ++ .opens :: (own ++ after) = (before ++ [.opens]) ++ own ++ after by simp,
    List.take_left' (by simp; omega), List.drop_left' (by simp; omega)]

theorem Reading.stays_of_ne_separator {r : Reading} (stays : r.staysInList false = true)
    (filled : r ≠ .separator) : r.staysInList true = true := by
  cases r <;> simp_all [Reading.staysInList]

theorem Reading.isSource_of_stays {r : Reading} (stays : r.staysInList implicitClose = true) :
    r.isSource = true := by
  cases r <;> simp_all [Reading.staysInList, Reading.isSource]

/-- A stretch without faults in which every list is closed is read in the same way if lists may end
earlier, or its list has a blank line. -/
theorem Stretch.implicit {front : List Reading} {next : Option Reading} {events : List Event}
    (h : Stretch false line front next events) (clean : errors events = []) :
    Stretch true line front next events ∨
      ∃ body list, front = .opens :: (body ++ .declaresList :: (list ++ [.closes])) ∧
        (∀ r ∈ body, r.isDeclaration = false) ∧ (∀ r ∈ list, r.staysInList false = true) ∧
          .separator ∈ list ∧ blocks events = [blockOf (line + 1) (body ++ .declaresList :: list)] := by
  cases h with
  | outside stays => exact .inl (.outside stays)
  | inline target plain => exact .inl (.inline target plain)
  | @closed body list _ plain stay =>
    by_cases blank : .separator ∈ list
    · refine .inr ⟨body, list, rfl, plain, stay, blank, ?_⟩
      rw [errors_append, List.append_eq_nil_iff] at clean
      have nonempty := ne_nil_of_errors_finishList clean.2
      simp only [blocks_append, blocks_strays, blocks_finishList, if_neg nonempty, blockOf,
        declarations_list line plain, List.length_append, List.length_cons, List.nil_append]
      congr 2
      omega
    · refine .inl (.closed plain fun r hr => ?_)
      exact Reading.stays_of_ne_separator (stay r hr) fun same => blank (same ▸ hr)
  | broken plain stay breaks => simp [breakList] at clean
  | undeclared plain => simp at clean

theorem errors_outcome_of_blank {body list : List Reading}
    (plain : ∀ r ∈ body, r.isDeclaration = false) (stay : ∀ r ∈ list, r.staysInList false = true)
    (blank : .separator ∈ list) (rest : List Reading) :
    errors (outcome true .idle line
      (.opens :: (body ++ .declaresList :: (list ++ [.closes])) ++ rest)) ≠ [] := by
  obtain ⟨named, others, rfl, first⟩ := List.eq_append_cons_of_mem blank
  have entries : ∀ r ∈ named, r.staysInList true = true := by
    intro r hr
    exact Reading.stays_of_ne_separator (stay r (by simp [hr])) fun same => first (same ▸ hr)
  have source : ∀ r ∈ others, r.isSource = true := by
    intro r hr
    exact Reading.isSource_of_stays (stay r (by simp [hr]))
  -- The blank line ends the list; the lines behind it are passed over, up to the closing one.
  have leftOver (declared here : Nat) (entries : List Entry) :
      outcome true (.list line declared entries) here (.separator :: (others ++ .closes :: rest)) =
        [breakList true line declared entries] ++
          .fault (here + 1 + others.length) .closedOutside ::
            outcome true .idle (here + 1 + others.length + 1) rest := by
    have passed := @outcome_idle_source true others source (here + 1) (.closes :: rest)
    rw [outcome_broken (by simp [Reading.breaksList, Reading.staysInList]), outcome_cons]
    simp only [step, stepIdle, passed, outcome_cons, List.nil_append, List.singleton_append]
  simp only [List.cons_append, List.append_assoc, List.nil_append]
  rw [outcome_cons, step, stepIdle, List.nil_append, outcome_body plain, outcome_cons, step,
    stepBody, List.nil_append, outcome_list entries, leftOver]
  intro quiet
  simp only [errors_append, errors_fault, List.append_eq_nil_iff] at quiet
  exact absurd quiet.2.2 (List.cons_ne_nil _ _)

namespace Division

variable {readings : List Reading} {events : List Event}

theorem outcome_implicit (h : Division false line readings events) (clean : errors events = [])
    (quiet : errors (outcome true .idle line readings) = []) :
    outcome true .idle line readings = events := by
  induction h with
  | done => rfl
  | @stretch line front rest events more first _ ih =>
    rw [errors_append, List.append_eq_nil_iff] at clean
    rcases first.implicit clean.1 with same | ⟨body, list, rfl, plain, stay, blank, -⟩
    · rw [same.outcome_append, errors_append, List.append_eq_nil_iff] at quiet
      rw [same.outcome_append, ih clean.2 quiet.2]
    · exact absurd quiet (errors_outcome_of_blank plain stay blank rest)

theorem implicit (h : Division false line readings events) (clean : errors events = [])
    (filled : ∀ b ∈ blocks events, ∀ own, b.Spans line readings own → .separator ∉ listed own) :
    Division true line readings events := by
  induction h with
  | done => exact .done
  | @stretch line front rest events more first _ ih =>
    rw [errors_append, List.append_eq_nil_iff] at clean
    simp only [blocks_append, List.mem_append] at filled
    refine .stretch ?_ (ih clean.2 fun b hb own spans => ?_)
    · rcases first.implicit clean.1 with same | ⟨body, list, rfl, plain, -, blank, found⟩
      · exact same
      · have here : (blockOf (line + 1) (body ++ .declaresList :: list)).Spans line
            (.opens :: (body ++ .declaresList :: (list ++ [.closes])) ++ rest)
            (body ++ .declaresList :: list) := ⟨[], .closes :: rest, by simp, rfl⟩
        have none := filled _ (.inl (by rw [found, List.mem_singleton])) _ here
        rw [listed_list plain] at none
        exact absurd blank none
    · exact filled b (.inr hb) own (spans.append front)

end Division

theorem Stretch.separator_not_mem_listed {front : List Reading} {next : Option Reading}
    {events : List Event} (h : Stretch true line front next events) :
    .separator ∉ listed front.tail := by
  cases h with
  | outside stays => simp [listed]
  | inline target plain =>
    rw [List.tail_cons, listed_append plain]
    simp [listed]
  | closed plain stay =>
    rw [List.tail_cons, listed_list plain, List.mem_append, not_or]
    exact ⟨fun blank => by simpa [Reading.staysInList] using stay _ blank, by simp⟩
  | broken plain stay breaks =>
    rw [List.tail_cons, listed_list plain]
    exact fun blank => by simpa [Reading.staysInList] using stay _ blank
  | @undeclared body plain =>
    have none := listed_append plain []
    rw [List.append_nil] at none
    rw [List.tail_cons, none]
    simp [listed]

theorem Division.separator_not_mem_listed {readings : List Reading} {events : List Event}
    (h : Division true line readings events) :
    ∀ b ∈ blocks events, ∃ own, b.Spans line readings own ∧ .separator ∉ listed own := by
  induction h with
  | done => simp
  | @stretch line front rest events more first _ ih =>
    intro b hb
    rw [blocks_append, List.mem_append] at hb
    rcases hb with hb | hb
    · rcases first.blocks_eq with none | ⟨own, behind, rfl, -, one⟩
      · simp [none] at hb
      · rw [one, List.mem_singleton] at hb
        refine ⟨own, ⟨[], behind ++ rest, by simp, hb⟩, fun blank => ?_⟩
        exact first.separator_not_mem_listed (listed_subset_append own behind blank)
    · obtain ⟨own, spans, filled⟩ := ih b hb
      exact ⟨own, spans.append front, filled⟩

section Lists

variable {m : Markers} {path : Path} {content : Bytes}

theorem Reading.ofLine_eq_declaresList_iff {text : Text} :
    ofLine m text = .declaresList ↔ Line.classify m text = .declaresList := by
  rw [← Reading.kind_ofLine]
  cases Reading.ofLine m text <;> simp [Reading.kind]

theorem separator_mem_listed_iff {own : List Reading} {place : Nat} {b : Block}
    (spans : b.Spans 1 (readingsOf m content) own) :
    .separator ∈ listed own ↔
      ∃ text ∈ (regionOf path (splitLines content) place b).listLines m, IsBlankSource m text := by
  have own_eq : own = readingsOf m (contentOf (splitLines content) b) := by
    rw [readingsOf_contentOf, spans.own_eq]
  have declares : (fun r => decide (r ≠ .declaresList)) ∘ Reading.ofLine m =
      fun text => decide (Line.classify m text ≠ .declaresList) := by
    funext text
    simp only [Function.comp_apply, ne_eq, Reading.ofLine_eq_declaresList_iff]
  have lines : listed own =
      ((regionOf path (splitLines content) place b).listLines m).map (Reading.ofLine m) := by
    rw [own_eq, readingsOf, ← Function.comp_def (Reading.ofLine m) lineText, ← List.map_map,
      listed, List.dropWhile_map, declares, ← List.map_tail]
    rfl
  simp only [lines, List.mem_map, ofLine_eq_separator_iff]

theorem everyLine_congr (same : eventsOf ⟨m, true⟩ content = eventsOf ⟨m, false⟩ content) :
    everyLine ⟨m, true⟩ path content = everyLine ⟨m, false⟩ path content := by
  simp only [everyLine, same]

theorem listLines_implicit {r : Region} (h : r ∈ (everyLine ⟨m, true⟩ path content).regions) :
    ∀ text ∈ r.listLines m, ¬IsBlankSource m text := by
  intro text mem blank
  obtain ⟨place, inside, rfl⟩ := List.mem_mapIdx.mp h
  obtain ⟨own, spans, none⟩ :=
    (division_run true (readingsOf m content)).separator_not_mem_listed _ (List.getElem_mem inside)
  exact none ((separator_mem_listed_iff spans).mpr ⟨text, mem, blank⟩)

theorem eventsOf_implicit (clean : errors (eventsOf ⟨m, false⟩ content) = [])
    (filled : ∀ r ∈ (everyLine ⟨m, false⟩ path content).regions,
      ∀ text ∈ r.listLines m, ¬IsBlankSource m text) :
    eventsOf ⟨m, true⟩ content = eventsOf ⟨m, false⟩ content := by
  refine ((division_run false (readingsOf m content)).implicit clean ?_).outcome_eq
  intro b hb own spans blank
  obtain ⟨place, inside, rfl⟩ := List.mem_iff_getElem.mp hb
  obtain ⟨text, mem, isBlank⟩ := (@separator_mem_listed_iff m path _ _ place _ spans).mp blank
  exact filled _ (List.mem_mapIdx.mpr ⟨place, inside, rfl⟩) text mem isBlank

end Lists

end Scan

theorem FileScan.ofContent_modes (m : Markers) (path : Path) (content : Bytes) :
    (∀ implicitClose, ofContent ⟨m, implicitClose⟩ path content =
        Scan.everyLine ⟨m, implicitClose⟩ path content) ∨
      ∀ implicitClose, ofContent ⟨m, implicitClose⟩ path content =
        { path, digest := .ofBytes content } := by
  cases treatment : Scan.treatment m content with
  | error word => exact .inr fun _ => by simp only [ofContent, treatment]
  | ok way =>
    cases way with
    | lineByLine => exact .inl fun _ => by simp only [ofContent, treatment]
    | binary => exact .inr fun _ => by simp only [ofContent, treatment]
    | unmarked => exact .inr fun _ => by simp only [ofContent, treatment]

/-- Where every list of a file is closed, lists that may end without a closing line give the same
scan or at least one error, and the same scan exactly if no list has a blank line. -/
theorem implicit_eq_strict_iff (m : Markers) (path : Path) (content : Bytes)
    (clean : (FileScan.ofContent ⟨m, false⟩ path content).errors = []) :
    let strict := FileScan.ofContent ⟨m, false⟩ path content
    let implicit := FileScan.ofContent ⟨m, true⟩ path content
    (implicit = strict ∨ implicit.errors ≠ []) ∧
      (implicit = strict ↔
        ∀ r ∈ strict.regions, ∀ text ∈ r.listLines m, ¬Scan.IsBlankSource m text) := by
  intro strict implicit
  rcases FileScan.ofContent_modes m path content with lines | none
  · simp only [strict, implicit, lines] at clean ⊢
    refine ⟨?_, ?_, ?_⟩
    · by_cases quiet : (Scan.everyLine ⟨m, true⟩ path content).errors = []
      · left
        apply Scan.everyLine_congr
        exact (Scan.division_run false _).outcome_implicit clean quiet
      · exact .inr quiet
    · intro same r hr
      exact Scan.listLines_implicit (same ▸ hr)
    · intro filled
      exact Scan.everyLine_congr (Scan.eventsOf_implicit clean filled)
  · simp [strict, implicit, none]

theorem implicit_ne_strict_of_blank :
    let content := Text.toUtf8 "# if-change\nx\n# then-change\n# p\n#\n# q\n# end-change\n"
    let strict := FileScan.ofContent {} "f" content
    let implicit := FileScan.ofContent { implicitClose := true } "f" content
    strict.errors = [] ∧ strict.regions.flatMap Region.targets = (["p", "q"] : List Text) ∧
      implicit.regions.flatMap Region.targets = (["p"] : List Text) ∧ implicit.errors ≠ [] ∧
        ¬∀ r ∈ strict.regions, ∀ text ∈ r.listLines .standard,
          ¬Scan.IsBlankSource .standard text := by
  intro content strict implicit
  have clean : strict.errors = [] := by decide +kernel
  have whole : strict.regions.flatMap Region.targets = (["p", "q"] : List Text) := by decide +kernel
  have part : implicit.regions.flatMap Region.targets = (["p"] : List Text) := by decide +kernel
  obtain ⟨either, iff⟩ := implicit_eq_strict_iff .standard "f" content clean
  have differ : implicit ≠ strict := by
    intro same
    rw [same, whole] at part
    cases part
  exact ⟨clean, whole, part, either.resolve_left differ, fun filled => differ (iff.mpr filled)⟩

end Lockstep
