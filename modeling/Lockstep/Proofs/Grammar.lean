import Lockstep.Proofs.Prefilter

/-! The grammar of annotations, said of classified lines and without the scan, and that the scan
accepts exactly this grammar: it reports nothing where the lines of a file follow it, something
where they do not, and its regions are those that the grammar finds. -/
namespace Lockstep

theorem Line.targetEntry?_of_isSeparator {line : Text} (h : isSeparator line = true) :
    targetEntry? line = none := by
  have empty : (line.dropFillerEnd ++ []).dropWhile Glyph.isBlank = [] :=
    List.dropWhile_append_of_pos (List.all_eq_true.mp h)
  rw [List.append_nil] at empty
  unfold targetEntry?
  rw [empty]
  rfl

namespace Scan

def NamesTarget (m : Markers) (line target : Text) : Prop :=
  Line.classify m line = .source ∧ Line.targetEntry? line = some target

/-- A line of source that has nothing but filler and blanks. -/
def IsBlankSource (m : Markers) (line : Text) : Prop :=
  Line.classify m line = .source ∧ Line.isSeparator line = true

/-- The lines of a list, the first of which has number `line`, and the entries they name. Blank
lines may stand in a list that has to be closed. -/
inductive TargetLines (m : Markers) (implicitClose : Bool) :
    Nat → List Text → List Entry → Prop where
  | done {line : Nat} : TargetLines m implicitClose line [] []
  | target {line : Nat} {text target : Text} {rest entries} (names : NamesTarget m text target)
      (others : TargetLines m implicitClose (line + 1) rest entries) :
      TargetLines m implicitClose line (text :: rest) (⟨target, line⟩ :: entries)
  | blank {line : Nat} {text : Text} {rest entries} (strict : implicitClose = false)
      (empty : IsBlankSource m text)
      (others : TargetLines m implicitClose (line + 1) rest entries) :
      TargetLines m implicitClose line (text :: rest) entries

/-- The lines of one annotation, the first of which has number `line`, with the line behind them, if
there is one, and the region they mark. -/
inductive RegionLines (m : Markers) (implicitClose : Bool) (line : Nat) :
    List Text → Option Text → Block → Prop where
  | inline {opening declaring target : Text} {body next}
      (opens : Line.classify m opening = .opens)
      (source : ∀ text ∈ body, Line.classify m text = .source)
      (declares : Line.classify m declaring = .declares target) :
      RegionLines m implicitClose line (opening :: (body ++ [declaring])) next
        { firstLine := line + 1, lastLine := line + 1 + body.length,
          entries := [⟨target, line + 1 + body.length⟩] }
  /-- A list of targets, with a closing line behind it. -/
  | closed {opening declaring closing : Text} {body list next entries}
      (opens : Line.classify m opening = .opens)
      (source : ∀ text ∈ body, Line.classify m text = .source)
      (declares : Line.classify m declaring = .declaresList)
      (targets : TargetLines m implicitClose (line + 2 + body.length) list entries)
      (nonempty : entries ≠ []) (closes : Line.classify m closing = .closes) :
      RegionLines m implicitClose line
        (opening :: (body ++ declaring :: (list ++ [closing]))) next
        { firstLine := line + 1, lastLine := line + 1 + body.length + list.length, entries }
  /-- A list of targets that ends where no target follows. -/
  | unclosed {opening declaring : Text} {body list next entries}
      (implicit : implicitClose = true)
      (opens : Line.classify m opening = .opens)
      (source : ∀ text ∈ body, Line.classify m text = .source)
      (declares : Line.classify m declaring = .declaresList)
      (targets : TargetLines m implicitClose (line + 2 + body.length) list entries)
      (nonempty : entries ≠ []) (maximal : ∀ text ∈ next, ∀ target, ¬NamesTarget m text target) :
      RegionLines m implicitClose line (opening :: (body ++ declaring :: list)) next
        { firstLine := line + 1, lastLine := line + 1 + body.length + list.length, entries }

/-- Lines of source and of annotations, one after the other, with the regions of the latter. -/
inductive Annotated (m : Markers) (implicitClose : Bool) : Nat → List Text → List Block → Prop where
  | done {line : Nat} : Annotated m implicitClose line [] []
  | source {line : Nat} {text : Text} {rest regions} (plain : Line.classify m text = .source)
      (others : Annotated m implicitClose (line + 1) rest regions) :
      Annotated m implicitClose line (text :: rest) regions
  | region {line : Nat} {front rest : List Text} {b regions}
      (first : RegionLines m implicitClose line front rest.head? b)
      (others : Annotated m implicitClose (line + front.length) rest regions) :
      Annotated m implicitClose line (front ++ rest) (b :: regions)

variable {m : Markers} {implicitClose : Bool} {line : Nat}

section Readings

theorem ofLine_eq_entry_iff {text target : Text} :
    Reading.ofLine m text = .entry target ↔ NamesTarget m text target := by
  unfold Reading.ofLine NamesTarget
  cases Line.classify m text with
  | source =>
    dsimp only
    split
    · simp_all
    · split <;> simp_all
  | _ => simp

theorem ofLine_eq_separator_iff {text : Text} :
    Reading.ofLine m text = .separator ↔ IsBlankSource m text := by
  unfold Reading.ofLine IsBlankSource
  cases Line.classify m text with
  | source =>
    dsimp only
    split
    · rename_i target named
      have filled : ¬Line.isSeparator text = true := by
        intro blank
        rw [Line.targetEntry?_of_isSeparator blank] at named
        cases named
      simp [filled]
    · split <;> simp_all
  | _ => simp

theorem targetLines_iff {texts : List Text} {entries : List Entry} :
    TargetLines m implicitClose line texts entries ↔
      (∀ r ∈ texts.map (Reading.ofLine m), r.staysInList implicitClose = true) ∧
        entriesOf line (texts.map (Reading.ofLine m)) = entries := by
  constructor
  · intro h
    induction h with
    | done => exact ⟨by simp, rfl⟩
    | target names _ ih =>
      have head := ofLine_eq_entry_iff.mpr names
      refine ⟨?_, by rw [List.map_cons, head, entriesOf, ih.2]⟩
      simpa [head, Reading.staysInList] using ih.1
    | blank strict empty _ ih =>
      have head := ofLine_eq_separator_iff.mpr empty
      refine ⟨?_, by rw [List.map_cons, head, entriesOf, ih.2]; simp⟩
      simpa [head, Reading.staysInList, strict] using ih.1
  · rintro ⟨stay, rfl⟩
    induction texts generalizing line with
    | nil => exact .done
    | cons text rest ih =>
      have tail := @ih (line + 1) fun r hr => stay r (by simp_all)
      have head := stay (Reading.ofLine m text) (by simp)
      rw [List.map_cons]
      cases reading : Reading.ofLine m text with
      | entry target => exact .target (ofLine_eq_entry_iff.mp reading) tail
      | separator =>
        have strict : implicitClose = false := by simpa [reading, Reading.staysInList] using head
        exact .blank strict (ofLine_eq_separator_iff.mp reading) tail
      | _ => simp [reading, Reading.staysInList] at head

theorem isSource_map {body : List Text} (source : ∀ text ∈ body, Line.classify m text = .source) :
    ∀ r ∈ body.map (Reading.ofLine m), r.isSource = true := by
  intro r hr
  obtain ⟨text, mem, rfl⟩ := List.mem_map.mp hr
  rw [Reading.isSource_iff, Reading.kind_ofLine]
  exact source text mem

theorem classify_of_isSource {body : List Text}
    (source : ∀ r ∈ body.map (Reading.ofLine m), r.isSource = true) :
    ∀ text ∈ body, Line.classify m text = .source := by
  intro text mem
  rw [← Reading.kind_ofLine, ← Reading.isSource_iff]
  exact source _ (List.mem_map_of_mem mem)

end Readings

section Source

variable {body : List Reading}

theorem isDeclaration_of_isSource (source : ∀ r ∈ body, r.isSource = true) :
    ∀ r ∈ body, r.isDeclaration = false := by
  intro r hr
  have := source r hr
  cases r <;> simp_all [Reading.isSource, Reading.isDeclaration]

theorem strays_of_isSource (source : ∀ r ∈ body, r.isSource = true) : strays line body = [] := by
  induction body generalizing line with
  | nil => rfl
  | cons reading rest ih =>
    have tail := @ih (line + 1) fun r hr => source r (by simp [hr])
    have head := source reading (by simp)
    cases reading <;> simp_all [strays, Reading.isSource]

theorem isSource_of_errors_strays (plain : ∀ r ∈ body, r.isDeclaration = false)
    (clean : errors (strays line body) = []) : ∀ r ∈ body, r.isSource = true := by
  induction body generalizing line with
  | nil => simp
  | cons reading rest ih =>
    have tail := @ih (line + 1) fun r hr => plain r (by simp [hr])
    have head := plain reading (by simp)
    cases reading <;> simp_all [strays, Reading.isSource, Reading.isDeclaration]

end Source

theorem finishList_of_ne_nil {entries : List Entry} (nonempty : entries ≠ [])
    (opened declared last : Nat) :
    finishList opened declared entries last =
      .block { firstLine := opened + 1, lastLine := last, entries } := by
  cases entries with
  | nil => exact absurd rfl nonempty
  | cons e rest => rfl

theorem breakList_of_ne_nil {list : List Reading}
    (stay : ∀ r ∈ list, r.staysInList true = true) (opened declared : Nat)
    (nonempty : entriesOf (declared + 1) list ≠ []) :
    breakList true opened declared (entriesOf (declared + 1) list) =
      .block { firstLine := opened + 1, lastLine := declared + list.length,
               entries := entriesOf (declared + 1) list } := by
  rw [breakList, if_pos rfl, last_entriesOf stay, finishList_of_ne_nil nonempty]

/-- The lines of an annotation are read as one stretch with one region, unless a list that nothing
has closed has a closing line behind it after all. -/
theorem RegionLines.stretch {front : List Text} {next : Option Text} {b : Block}
    (h : RegionLines m implicitClose line front next b)
    (ended : ∀ text ∈ next, Line.classify m text ≠ .closes) :
    Stretch implicitClose line (front.map (Reading.ofLine m)) (next.map (Reading.ofLine m))
      [.block b] := by
  cases h with
  | @inline opening declaring target body _ opens source declares =>
    have source := isSource_map source
    have stretch : Stretch implicitClose line _ (next.map (Reading.ofLine m)) _ :=
      .inline target (isDeclaration_of_isSource source)
    simpa [strays_of_isSource source, Reading.ofLine, opens, declares] using stretch
  | @closed opening declaring closing body list _ entries opens source declares targets nonempty
      closes =>
    have source := isSource_map source
    obtain ⟨stay, rfl⟩ := targetLines_iff.mp targets
    have stretch : Stretch implicitClose line _ (next.map (Reading.ofLine m)) _ :=
      .closed (isDeclaration_of_isSource source) stay
    simpa [strays_of_isSource source, Reading.ofLine, opens, declares, closes,
      finishList_of_ne_nil nonempty] using stretch
  | @unclosed opening declaring body list _ entries implicit opens source declares targets nonempty
      maximal =>
    subst implicit
    have source := isSource_map source
    obtain ⟨stay, rfl⟩ := targetLines_iff.mp targets
    have breaks : ∀ r ∈ next.map (Reading.ofLine m), r.breaksList true = true := by
      intro r hr
      obtain ⟨text, mem, rfl⟩ := Option.map_eq_some_iff.mp hr
      have unnamed := maximal text mem
      have unclosed := ended text mem
      rw [← Reading.kind_ofLine] at unclosed
      simp only [← ofLine_eq_entry_iff] at unnamed
      cases reading : Reading.ofLine m text <;>
        simp_all [Reading.breaksList, Reading.staysInList, Reading.kind]
    have stretch : Stretch true line _ (next.map (Reading.ofLine m)) _ :=
      .broken (isDeclaration_of_isSource source) stay breaks
    have last := breakList_of_ne_nil stay line (line + 1 + body.length)
    rw [show line + 1 + body.length + 1 = line + 2 + body.length by omega] at last
    simpa [strays_of_isSource source, Reading.ofLine, opens, declares, last nonempty] using stretch

namespace Annotated

variable {texts : List Text} {regions : List Block}

theorem head_ne_closes (h : Annotated m implicitClose line texts regions) :
    ∀ text ∈ texts.head?, Line.classify m text ≠ .closes := by
  cases h with
  | done => simp
  | source plain _ => simp [plain]
  | region first _ => cases first <;> simp [*]

theorem division (h : Annotated m implicitClose line texts regions) :
    Division implicitClose line (texts.map (Reading.ofLine m)) (regions.map Event.block) := by
  induction h with
  | done => exact .done
  | @source line text rest regions plain _ ih =>
    have source : (Reading.ofLine m text).isSource = true := by
      rw [Reading.isSource_iff, Reading.kind_ofLine, plain]
    have quiet : (stepIdle line (Reading.ofLine m text)).2 = [] := by
      cases reading : Reading.ofLine m text <;> simp_all [stepIdle, Reading.isSource]
    have stays : Reading.ofLine m text ≠ .opens := by
      intro opens
      simp [opens, Reading.isSource] at source
    have stretch := Division.stretch (.outside stays) ih
    rwa [quiet] at stretch
  | @region line front rest b regions first others ih =>
    have stretch := first.stretch others.head_ne_closes
    rw [← List.head?_map] at stretch
    rw [← List.length_map (Reading.ofLine m)] at ih
    rw [List.map_append]
    exact .stretch stretch ih

end Annotated

theorem ne_nil_of_errors_finishList {opened declared last : Nat} {entries : List Entry}
    (clean : errors [finishList opened declared entries last] = []) : entries ≠ [] := by
  rintro rfl
  simp [finishList] at clean

theorem of_errors_breakList {opened declared : Nat} {entries : List Entry}
    (clean : errors [breakList implicitClose opened declared entries] = []) :
    implicitClose = true ∧ entries ≠ [] := by
  cases implicitClose with
  | false => simp [breakList] at clean
  | true => exact ⟨rfl, ne_nil_of_errors_finishList clean⟩

theorem classify_of_ofLine {text : Text} {reading : Reading}
    (h : Reading.ofLine m text = reading) : Line.classify m text = reading.kind := by
  rw [← h, Reading.kind_ofLine]

theorem exists_lines_of_map {texts : List Text} {body tail : List Reading} {declared : Reading}
    (h : texts.map (Reading.ofLine m) = .opens :: (body ++ declared :: tail)) :
    ∃ opening own declaring behind, texts = opening :: (own ++ declaring :: behind) ∧
      Line.classify m opening = .opens ∧ own.map (Reading.ofLine m) = body ∧
        Line.classify m declaring = declared.kind ∧ behind.map (Reading.ofLine m) = tail := by
  obtain ⟨opening, others, rfl, hopening, hothers⟩ := List.map_eq_cons_iff.mp h
  obtain ⟨own, rest, rfl, hown, hrest⟩ := List.map_eq_append_iff.mp hothers
  obtain ⟨declaring, behind, rfl, hdeclaring, hbehind⟩ := List.map_eq_cons_iff.mp hrest
  exact ⟨opening, own, declaring, behind, rfl, classify_of_ofLine hopening, hown,
    classify_of_ofLine hdeclaring, hbehind⟩

/-- A stretch without faults is a line of source or an annotation. -/
theorem Stretch.source_or_regionLines {texts : List Text} {next : Option Text}
    {events : List Event}
    (h : Stretch implicitClose line (texts.map (Reading.ofLine m))
      (next.map (Reading.ofLine m)) events) (clean : errors events = []) :
    (∃ text, texts = [text] ∧ Line.classify m text = .source ∧ blocks events = []) ∨
      ∃ b, blocks events = [b] ∧ RegionLines m implicitClose line texts next b := by
  generalize hfront : texts.map (Reading.ofLine m) = front at h
  generalize hnext : next.map (Reading.ofLine m) = after at h
  cases h with
  | @outside reading _ stays =>
    obtain ⟨text, rfl, htext⟩ := List.map_eq_singleton_iff.mp hfront
    refine .inl ⟨text, rfl, ?_, blocks_stepIdle reading⟩
    rw [classify_of_ofLine htext]
    cases reading <;> simp_all [stepIdle, Reading.kind]
  | @inline body _ target plain =>
    obtain ⟨opening, own, declaring, behind, rfl, opens, rfl, declares, hbehind⟩ :=
      exists_lines_of_map hfront
    rw [List.map_eq_nil_iff] at hbehind
    subst hbehind
    rw [errors_append, List.append_eq_nil_iff] at clean
    have source := classify_of_isSource (isSource_of_errors_strays plain clean.1)
    refine .inr ⟨_, by rw [blocks_append, blocks_strays]; rfl, ?_⟩
    rw [List.length_map]
    exact .inline opens source declares
  | @closed body list _ plain stay =>
    obtain ⟨opening, own, declaring, behind, rfl, opens, rfl, declares, hbehind⟩ :=
      exists_lines_of_map hfront
    obtain ⟨listed, last, rfl, rfl, hlast⟩ := List.map_eq_append_iff.mp hbehind
    obtain ⟨closing, rfl, hclosing⟩ := List.map_eq_singleton_iff.mp hlast
    rw [errors_append, List.append_eq_nil_iff] at clean
    have source := classify_of_isSource (isSource_of_errors_strays plain clean.1)
    have nonempty := ne_nil_of_errors_finishList clean.2
    rw [finishList_of_ne_nil nonempty]
    refine .inr ⟨_, by rw [blocks_append, blocks_strays]; rfl, ?_⟩
    rw [List.length_map] at nonempty
    rw [List.length_map, List.length_map]
    exact .closed opens source declares (targetLines_iff.mpr ⟨stay, rfl⟩) nonempty
      (classify_of_ofLine hclosing)
  | @broken body list _ plain stay breaks =>
    obtain ⟨opening, own, declaring, listed, rfl, opens, rfl, declares, rfl⟩ :=
      exists_lines_of_map hfront
    rw [errors_append, List.append_eq_nil_iff] at clean
    have source := classify_of_isSource (isSource_of_errors_strays plain clean.1)
    obtain ⟨rfl, nonempty⟩ := of_errors_breakList clean.2
    have last := breakList_of_ne_nil stay line (line + 1 + own.length)
    rw [List.length_map] at nonempty ⊢
    rw [show line + 1 + own.length + 1 = line + 2 + own.length by omega, List.length_map] at last
    rw [last nonempty]
    refine .inr ⟨_, by rw [blocks_append, blocks_strays]; rfl, ?_⟩
    refine .unclosed rfl opens source declares (targetLines_iff.mpr ⟨stay, rfl⟩) nonempty ?_
    intro text mem target names
    have breaks := breaks (.entry target)
      (by rw [← hnext, ← ofLine_eq_entry_iff.mpr names]; exact Option.mem_map_of_mem _ mem)
    simp [Reading.breaksList, Reading.staysInList] at breaks
  | undeclared plain => simp at clean

theorem Division.annotated {readings : List Reading} {events : List Event}
    (h : Division implicitClose line readings events) (clean : errors events = [])
    {texts : List Text} (read : texts.map (Reading.ofLine m) = readings) :
    Annotated m implicitClose line texts (blocks events) := by
  induction h generalizing texts with
  | done =>
    rw [List.map_eq_nil_iff] at read
    subst read
    exact .done
  | @stretch line front rest events more first others ih =>
    obtain ⟨frontTexts, restTexts, rfl, rfl, rfl⟩ := List.map_eq_append_iff.mp read
    rw [errors_append, List.append_eq_nil_iff] at clean
    have behind := ih clean.2 rfl
    rw [List.length_map] at behind
    rw [List.head?_map] at first
    rw [blocks_append]
    rcases first.source_or_regionLines clean.1 with ⟨text, rfl, source, none⟩ | ⟨b, one, region⟩
    · rw [none]
      exact .source source behind
    · rw [one]
      exact .region region behind

section Blocks

variable (regions : List Block)

@[simp] theorem errors_map_block : errors (regions.map Event.block) = [] := by
  simp [errors, List.filterMap_map]

@[simp] theorem blocks_map_block : blocks (regions.map Event.block) = regions := by
  unfold blocks
  rw [List.filterMap_map]
  exact List.filterMap_some

end Blocks

theorem eventsOf_eq_outcome (convention : Convention) (content : Bytes) :
    eventsOf convention content =
      outcome convention.implicitClose .idle 1
        (((splitLines content).map lineText).map (Reading.ofLine convention.markers)) := by
  rw [List.map_map]
  rfl

end Scan

end Lockstep
