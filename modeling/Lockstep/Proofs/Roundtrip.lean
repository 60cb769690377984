import Lockstep.Proofs.Writing

/-! That scanning a written file gives back what was written. The lines are found again, each is
classified as what it was written for, and so the whole follows the grammar of annotations. -/
namespace Lockstep

theorem areLines_map {lines : List Bytes} {ending : Bytes}
    (plain : ∀ line ∈ lines, ∀ b ∈ line, b ≠ 10 ∧ b ≠ 13) (ends : ending ∈ lineEndings) :
    AreLines (lines.map (· ++ ending)) := by
  induction lines with
  | nil => trivial
  | cons line rest ih =>
    refine ⟨⟨line, ending, rfl, ?_, plain line (by simp), .inl ⟨ends, ?_⟩⟩,
      ih fun line hline => plain line (by simp [hline])⟩
    · rintro empty
      rw [List.append_eq_nil_iff] at empty
      simp [empty.2, lineEndings] at ends
    · -- The next line begins with a byte of its own or with the same ending.
      rintro rfl next
      cases rest with
      | nil => simp at next
      | cons second rest =>
        cases second with
        | nil => simp at next
        | cons b second => simp_all

namespace Text

/-- Whether a text can stand on one line of a file that is not taken for a binary one. -/
def IsPlain (t : Text) : Prop :=
  ∀ g ∈ t, ∃ c, g = .char c ∧ c ≠ '\x00' ∧ c ≠ '\n' ∧ c ≠ '\r'

theorem IsPlain.append {a b : Text} (ha : a.IsPlain) (hb : b.IsPlain) : (a ++ b).IsPlain := by
  intro g hg
  exact (List.mem_append.mp hg).elim (ha g) (hb g)

theorem IsPlain.prose {t : Text} (h : t.IsPlain) : t.IsProse := by
  intro g hg
  obtain ⟨c, same, -⟩ := h g hg
  exact ⟨c, same⟩

theorem IsPlain.toUtf8 {t : Text} (h : t.IsPlain) :
    ∀ b ∈ t.toUtf8, b ≠ 0 ∧ b ≠ 10 ∧ b ≠ 13 := by
  have absent {c : Char} (hc : ¬(c ≠ '\x00' ∧ c ≠ '\n' ∧ c ≠ '\r')) : .char c ∉ t := by
    intro mem
    obtain ⟨d, same, plain⟩ := h _ mem
    cases same
    exact hc plain
  intro b hb
  refine ⟨?_, ?_, ?_⟩
  · rintro rfl
    exact absent (by decide) (mem_of_mem_toUtf8 h.prose hb (by decide))
  · rintro rfl
    exact absent (by decide) (mem_of_mem_toUtf8 h.prose hb (by decide))
  · rintro rfl
    exact absent (by decide) (mem_of_mem_toUtf8 h.prose hb (by decide))

theorem isPlain_of_solid {t : Text} (prose : t.IsProse) (noZero : .char '\x00' ∉ t)
    (solid : ∀ g ∈ t, g.isBlank = false) : t.IsPlain := by
  intro g hg
  obtain ⟨c, rfl⟩ := prose g hg
  have blank := solid _ hg
  refine ⟨c, rfl, ?_, ?_, ?_⟩
  · rintro rfl
    exact noZero hg
  · rintro rfl
    exact absurd blank (by decide)
  · rintro rfl
    exact absurd blank (by decide)

theorem isPlain_of_filler {t : Text} (filler : ∀ g ∈ t, g.isFiller = true)
    (unbroken : .char '\n' ∉ t ∧ .char '\r' ∉ t) : t.IsPlain := by
  intro g hg
  have fills := filler g hg
  cases g with
  | byte b => cases fills
  | char c =>
    refine ⟨c, rfl, ?_, ?_, ?_⟩
    · rintro rfl
      exact absurd fills (by decide)
    · rintro rfl
      exact unbroken.1 hg
    · rintro rfl
      exact unbroken.2 hg

end Text

namespace Writing

variable {m : Markers}

theorem IsLead.filler {lead : Text} (h : IsLead lead) : ∀ g ∈ lead, g.isFiller = true :=
  List.all_eq_true.mp h.comment

theorem IsLead.isPlain {lead : Text} (h : IsLead lead) : lead.IsPlain :=
  Text.isPlain_of_filler h.filler h.unbroken

theorem IsTarget.isPlain {path : Text} (h : IsTarget path) : path.IsPlain :=
  Text.isPlain_of_solid h.prose h.noZero h.solid

theorem isPlain_spaces (count : Nat) : Text.IsPlain (List.replicate count (.char ' ')) := by
  intro g hg
  exact ⟨' ', List.eq_of_mem_replicate hg, by decide⟩

theorem Bullet.Valid.isPlain {b : Bullet} (h : b.Valid m) : b.text.IsPlain := by
  have leader : b.leader.IsPlain := by
    apply Text.isPlain_of_filler
    · intro g hg
      exact Glyph.isFiller_of_isPunct (h.punct g hg)
    · exact ⟨fun mem => absurd (h.punct _ mem) (by decide),
        fun mem => absurd (h.punct _ mem) (by decide)⟩
  exact leader.append ((isPlain_spaces _).append h.path.isPlain)

theorem Bullet.Valid.names {b : Bullet} (h : b.Valid m) : Scan.NamesTarget m b.text b.path := by
  refine ⟨h.source, Line.targetEntry?_bullet h.path.toIsPath h.punct ?_ ?_ h.bare⟩
  · simpa using h.parted
  · intro g hg
    rw [List.eq_of_mem_replicate hg]
    decide

section Plain

variable (plain : ∀ word ∈ m.words, word.IsPlain)

include plain

theorem Declaration.Valid.isPlain {d : Declaration} (h : d.Valid m) :
    ∀ t ∈ d.own m ++ d.behind m, t.IsPlain := by
  have declares : m.declares.IsPlain := plain _ (by simp [Markers.words])
  have closes : m.closes.IsPlain := plain _ (by simp [Markers.words])
  cases d with
  | inline lead path =>
    intro t ht
    rw [List.mem_singleton.mp ht]
    have tail : Text.IsPlain (.char ' ' :: path) := (isPlain_spaces 1).append h.2.isPlain
    exact h.1.isPlain.append (declares.append tail)
  | list lead bullets closingLead =>
    obtain ⟨isLead, ⟨_, valid⟩, isClosing⟩ := h
    intro t ht
    simp only [own, behind, List.cons_append, List.mem_cons, List.mem_append, List.mem_map,
      List.not_mem_nil, or_false] at ht
    rcases ht with rfl | ⟨b, hb, rfl⟩ | rfl
    · exact isLead.isPlain.append declares
    · exact (valid b hb).isPlain
    · exact isClosing.isPlain.append closes

theorem Item.Valid.isPlain {item : Item} (h : item.Valid m) :
    ∀ line ∈ item.lines m, ∀ b ∈ line, b ≠ 0 ∧ b ≠ 10 ∧ b ≠ 13 := by
  cases item with
  | source line =>
    intro own hown
    rw [List.mem_singleton.mp hown]
    exact IsSource.plain h
  | annotated a =>
    have opens : (a.lead ++ m.opens).IsPlain :=
      h.lead.isPlain.append (plain _ (by simp [Markers.words]))
    have declared := h.declaration.isPlain plain
    intro line hline
    simp only [lines, Annotation.lines, Annotation.own, List.mem_cons, List.mem_append,
      List.mem_map] at hline
    rcases hline with rfl | (hline | ⟨t, ht, rfl⟩) | ⟨t, ht, rfl⟩
    · exact opens.toUtf8
    · exact (h.body line hline).plain
    · exact (declared t (List.mem_append_left _ ht)).toUtf8
    · exact (declared t (List.mem_append_right _ ht)).toUtf8

end Plain

theorem map_ofUtf8Lossy {texts : List Text} (prose : ∀ t ∈ texts, t.IsProse) :
    (texts.map Text.toUtf8).map Text.ofUtf8Lossy = texts := by
  rw [List.map_map]
  refine (List.map_congr_left ?_).trans (List.map_id texts)
  intro t ht
  exact Text.ofUtf8Lossy_toUtf8 (prose t ht)

section Grammar

variable (plain : ∀ word ∈ m.words, word.IsPlain) (marks : ∀ word ∈ m.words, word.IsMark)
  (implicitClose : Bool)

theorem targetLines_bullets {bullets : List Bullet} (valid : ∀ b ∈ bullets, b.Valid m)
    (line : Nat) :
    Scan.TargetLines m implicitClose line (bullets.map Bullet.text)
      ((bullets.zipIdx line).map fun (b, line) => ⟨b.path, line⟩) := by
  induction bullets generalizing line with
  | nil => exact .done
  | cons b rest ih =>
    have others := ih (fun b hb => valid b (by simp [hb])) (line + 1)
    exact .target (valid b (by simp)).names others

include plain in
theorem Annotation.Valid.texts {a : Annotation} (h : a.Valid m) :
    (a.lines m).map Text.ofUtf8Lossy =
      (a.lead ++ m.opens) :: (a.body.map Text.ofUtf8Lossy ++
        (a.declaration.own m ++ a.declaration.behind m)) := by
  have opens : (a.lead ++ m.opens).IsProse :=
    (h.lead.isPlain.append (plain _ (by simp [Markers.words]))).prose
  have declared := map_ofUtf8Lossy fun t ht => (h.declaration.isPlain plain t ht).prose
  rw [List.map_append, List.map_append] at declared
  rw [lines, own, List.map_cons, Text.ofUtf8Lossy_toUtf8 opens, List.append_assoc,
    List.map_append, List.map_append, declared]

include plain marks

theorem Annotation.Valid.regionLines {a : Annotation} (h : a.Valid m) (line : Nat)
    (next : Option Text) :
    Scan.RegionLines m implicitClose line ((a.lines m).map Text.ofUtf8Lossy) next
      (a.block m line) := by
  rw [h.texts plain]
  obtain ⟨lead, body, declaration⟩ := a
  obtain ⟨isLead, isSource, valid⟩ := h
  have opens := Line.classify_opens marks isLead.filler
  have source : ∀ text ∈ body.map Text.ofUtf8Lossy, Line.classify m text = .source := by
    intro text ht
    obtain ⟨bytes, hbytes, rfl⟩ := List.mem_map.mp ht
    exact (isSource bytes hbytes).source
  cases declaration with
  | inline declaringLead path =>
    have declares := Line.classify_declares marks valid.1.filler valid.2.toIsPath
    have extent : Annotation.block m ⟨lead, body, .inline declaringLead path⟩ line =
        { firstLine := line + 1, lastLine := line + 1 + (body.map Text.ofUtf8Lossy).length,
          entries := [⟨path, line + 1 + (body.map Text.ofUtf8Lossy).length⟩] } := by
      simp only [block, own, Declaration.own, Declaration.entries, List.length_append,
        List.length_map, List.length_singleton]
      congr 1
      omega
    rw [extent]
    exact .inline opens source declares
  | list declaringLead bullets closingLead =>
    obtain ⟨isDeclaring, ⟨nonempty, bulletsValid⟩, isClosing⟩ := valid
    have declares := Line.classify_declaresList marks isDeclaring.filler
    have closes := Line.classify_closes marks isClosing.filler
    have targets := targetLines_bullets implicitClose bulletsValid
      (line + 2 + (body.map Text.ofUtf8Lossy).length)
    have extent : Annotation.block m ⟨lead, body, .list declaringLead bullets closingLead⟩ line =
        { firstLine := line + 1,
          lastLine := line + 1 + (body.map Text.ofUtf8Lossy).length
            + (bullets.map Bullet.text).length,
          entries := (bullets.zipIdx (line + 2 + (body.map Text.ofUtf8Lossy).length)).map
            fun (b, line) => ⟨b.path, line⟩ } := by
      simp only [block, own, Declaration.own, Declaration.entries, List.length_append,
        List.length_map, List.length_cons,
        show line + 1 + body.length + 1 = line + 2 + body.length by omega]
      congr 1
      omega
    rw [extent]
    exact .closed opens source declares targets (by simpa using nonempty) closes

def blocksFrom (m : Markers) (line : Nat) : List Item → List Scan.Block
  | [] => []
  | .source _ :: rest => blocksFrom m (line + 1) rest
  | .annotated a :: rest => a.block m line :: blocksFrom m (line + (a.lines m).length) rest

theorem annotated {items : List Item} (valid : ∀ item ∈ items, item.Valid m) (line : Nat) :
    Scan.Annotated m implicitClose line
      ((items.flatMap (Item.lines m)).map Text.ofUtf8Lossy) (blocksFrom m line items) := by
  induction items generalizing line with
  | nil => exact .done
  | cons item rest ih =>
    have others := ih fun item hitem => valid item (by simp [hitem])
    have own := valid item (by simp)
    rw [List.flatMap_cons, List.map_append]
    cases item with
    | source bytes => exact .source own.source (others (line + 1))
    | annotated a =>
      refine .region (own.regionLines plain marks implicitClose line _) ?_
      rw [List.length_map]
      exact others (line + (a.lines m).length)

end Grammar

theorem Annotation.regionOf_block (m : Markers) (path : Path) (ending : Bytes) (a : Annotation)
    (front behind : List Bytes) (index : Nat) :
    Scan.regionOf path (front ++ ((a.lines m).map (· ++ ending) ++ behind)) index
        (a.block m (front.length + 1)) =
      a.region m path ending index (front.length + 1) := by
  have content : Scan.contentOf (front ++ ((a.lines m).map (· ++ ending) ++ behind))
      (a.block m (front.length + 1)) = ((a.own m).map (· ++ ending)).flatten := by
    let opening := (a.lead ++ m.opens).toUtf8 ++ ending
    let closing := ((a.declaration.behind m).map Text.toUtf8).map (· ++ ending)
    have parts : front ++ ((a.lines m).map (· ++ ending) ++ behind) =
        (front ++ [opening]) ++ (a.own m).map (· ++ ending) ++ (closing ++ behind) := by
      simp [lines, opening, closing]
    rw [Scan.contentOf, parts, List.take_left' (by simp [block]; omega),
      List.drop_left' (by simp [block])]
  unfold Scan.regionOf region
  rw [content]

theorem mapIdx_regionOf (m : Markers) (path : Path) (ending : Bytes) (items : List Item)
    (front : List Bytes) (index : Nat) :
    let lines := front ++ (items.flatMap (Item.lines m)).map (· ++ ending)
    (blocksFrom m (front.length + 1) items).mapIdx
        (fun i b => Scan.regionOf path lines (index + i) b) =
      regionsFrom m path ending index (front.length + 1) items := by
  induction items generalizing front index with
  | nil => rfl
  | cons item rest ih =>
    intro lines
    cases item with
    | source bytes =>
      have others := ih (front ++ [bytes ++ ending]) index
      simpa [blocksFrom, regionsFrom, Item.lines, lines] using others
    | annotated a =>
      have first := a.regionOf_block m path ending front
        ((rest.flatMap (Item.lines m)).map (· ++ ending)) index
      have others := ih (front ++ (a.lines m).map (· ++ ending)) (index + 1)
      have parts : lines = front ++ ((a.lines m).map (· ++ ending) ++
          (rest.flatMap (Item.lines m)).map (· ++ ending)) := by
        simp [lines, Item.lines]
      rw [List.append_assoc, ← parts, List.length_append, List.length_map,
        Nat.add_right_comm] at others
      rw [← parts] at first
      rw [blocksFrom, regionsFrom, List.mapIdx_cons]
      refine congrArg₂ List.cons first ?_
      rw [← others]
      congr 1
      funext i b
      rw [Nat.add_assoc, Nat.add_comm 1]

variable {m : Markers} {ending : Bytes} {items : List Item}

theorem mayContainMarkers_render (encodable : m.Encodable) {a : Annotation}
    (mem : .annotated a ∈ items) :
    Scan.mayContainMarkers m (render m ending items) = .ok true := by
  have line : (a.lead ++ m.opens).toUtf8 ++ ending ∈
      (items.flatMap (Item.lines m)).map (· ++ ending) := by
    apply List.mem_map_of_mem
    exact List.mem_flatMap.mpr ⟨_, mem, List.mem_cons_self⟩
  have spelled : m.opens.toUtf8 <:+: render m ending items := by
    refine List.IsInfix.trans ?_ (List.infix_of_mem_flatten line)
    rw [Text.toUtf8_append]
    exact List.infix_append _ _ _
  have found : m.words.any (fun word => hasSlice word.toUtf8 (render m ending items)) = true :=
    List.any_eq_true.mpr ⟨m.opens, by simp [Markers.words], hasSlice_of_infix spelled⟩
  rw [Scan.mayContainMarkers, Scan.containsAny_of_prose encodable, found]

theorem regionsFrom_eq_nil (none : ∀ a, .annotated a ∉ items) (path : Path) (index line : Nat) :
    regionsFrom m path ending index line items = [] := by
  induction items generalizing line with
  | nil => rfl
  | cons item rest ih =>
    cases item with
    | source bytes => exact ih (fun a mem => none a (by simp [mem])) (line + 1)
    | annotated a => exact absurd (by simp) (none a)

section Render

variable (plain : ∀ word ∈ m.words, word.IsPlain) (ends : ending ∈ lineEndings)
  (valid : ∀ item ∈ items, item.Valid m)

include plain ends valid

theorem splitLines_render :
    splitLines (render m ending items) = (items.flatMap (Item.lines m)).map (· ++ ending) := by
  apply splitLines_flatten
  refine areLines_map ?_ ends
  intro line hline b hb
  obtain ⟨item, hitem, within⟩ := List.mem_flatMap.mp hline
  exact ((valid item hitem).isPlain plain line within b hb).2

theorem map_lineText_render :
    (splitLines (render m ending items)).map lineText =
      (items.flatMap (Item.lines m)).map Text.ofUtf8Lossy := by
  rw [splitLines_render plain ends valid, List.map_map]
  apply List.map_congr_left
  intro line hline
  obtain ⟨item, hitem, within⟩ := List.mem_flatMap.mp hline
  exact lineText_append (fun b hb => ((valid item hitem).isPlain plain line within b hb).2) ends

theorem zero_not_mem_render : 0 ∉ render m ending items := by
  intro mem
  obtain ⟨line, hline, hzero⟩ := List.mem_flatten.mp mem
  obtain ⟨bare, hbare, rfl⟩ := List.mem_map.mp hline
  rcases List.mem_append.mp hzero with hzero | hzero
  · obtain ⟨item, hitem, within⟩ := List.mem_flatMap.mp hbare
    exact ((valid item hitem).isPlain plain bare within 0 hzero).1 rfl
  · simp only [lineEndings, List.mem_cons, List.not_mem_nil, or_false] at ends
    rcases ends with rfl | rfl | rfl <;> simp at hzero

end Render

theorem everyLine_render {convention : Convention} (ends : ending ∈ lineEndings)
    (plain : ∀ word ∈ convention.markers.words, word.IsPlain)
    (marks : ∀ word ∈ convention.markers.words, word.IsMark)
    (valid : ∀ item ∈ items, item.Valid convention.markers) (path : Path) :
    Scan.everyLine convention path (render convention.markers ending items) =
      scanOf convention.markers path ending items := by
  have events : Scan.eventsOf convention (render convention.markers ending items) =
      (blocksFrom convention.markers 1 items).map Scan.Event.block := by
    rw [Scan.eventsOf_eq_outcome, map_lineText_render plain ends valid]
    exact (annotated plain marks convention.implicitClose valid 1).division.outcome_eq
  have regions := mapIdx_regionOf convention.markers path ending items [] 0
  simp only [List.nil_append, Nat.zero_add, List.length_nil] at regions
  unfold Scan.everyLine scanOf
  rw [events]
  dsimp only
  rw [Scan.blocks_map_block, Scan.errors_map_block, splitLines_render plain ends valid, ← regions]

/-- Scanning a file that was written gives back what was written: the region of each annotation,
with its targets, lines and bytes, and nothing out of place. -/
theorem parse_render (convention : Convention) (path : Path) (ending : Bytes)
    (ends : ending ∈ lineEndings) (items : List Item)
    (encodable : convention.markers.Encodable)
    (noZero : ∀ word ∈ convention.markers.words, .char '\x00' ∉ word)
    (standOut : convention.markers.StandOut)
    (valid : ∀ item ∈ items, item.Valid convention.markers) :
    FileScan.parse convention path (render convention.markers ending items) =
      .ok (scanOf convention.markers path ending items) := by
  have plain : ∀ word ∈ convention.markers.words, word.IsPlain := by
    intro word mem
    exact Text.isPlain_of_solid (encodable word mem) (noZero word mem)
      (Markers.solid_of_mem_words mem).2
  have text : 0 ∉ render convention.markers ending items := zero_not_mem_render plain ends valid
  obtain ⟨found, searched⟩ :=
    Scan.exists_mayContainMarkers encodable (render convention.markers ending items)
  cases found with
  | true =>
    rw [FileScan.parse_marked text searched, everyLine_render ends plain standOut.isMark valid path]
  | false =>
    -- Without a marker among the bytes there is no annotation to give back.
    have none : ∀ a, .annotated a ∉ items := by
      intro a mem
      rw [mayContainMarkers_render encodable mem] at searched
      cases searched
    rw [FileScan.parse_unmarked searched path, scanOf, regionsFrom_eq_nil none]

theorem parse_render_list_and_inline :
    let items : List Item :=
      [.source [0xFF], .annotated ⟨"# ", [Text.toUtf8 "a", []],
          .list "<!-- " [⟨"-", 1, "p"⟩, ⟨"**", 2, "./q"⟩] "//"⟩,
        .source [], .annotated ⟨"", [], .inline "-- " "#r"⟩]
    Markers.standard.Encodable ∧
      (∀ word ∈ Markers.standard.words, .char '\x00' ∉ word) ∧ Markers.standard.StandOut ∧
        (∀ item ∈ items, item.Valid .standard) ∧
          FileScan.parse {} "f" (render .standard [13, 10] items) =
            .ok (scanOf .standard "f" [13, 10] items) ∧
          (regionsFrom .standard "f" [13, 10] 0 1 items).map
              (fun r => (r.firstLine, r.lastLine, r.targets)) =
            [(3, 7, [Text.ofString "p", "./q"]), (11, 11, [Text.ofString "#r"])] := by
  intro items
  have encodable : Markers.standard.Encodable := by decide +kernel
  have noZero : ∀ word ∈ Markers.standard.words, .char '\x00' ∉ word := by decide +kernel
  have standOut : Markers.standard.StandOut := by decide +kernel
  have valid : ∀ item ∈ items, item.Valid .standard := by decide +kernel
  exact ⟨encodable, noZero, standOut, valid,
    parse_render {} "f" [13, 10] (by decide) items encodable noZero standOut valid,
    by decide +kernel⟩

/-- A marker with a zero byte makes every file with it a binary one, in which nothing is found. -/
theorem parse_render_zero :
    let m : Markers := { opens := "a\x00b", declares := "then", closes := "end" }
    let items : List Item := [.annotated ⟨"", [Text.toUtf8 "x"], .inline "" "p"⟩]
    let parsed := FileScan.parse { markers := m } "f" (render m [10] items)
    m.Encodable ∧ m.StandOut ∧ (∀ item ∈ items, item.Valid m) ∧
      parsed.map FileScan.regions = .ok [] ∧ parsed ≠ .ok (scanOf m "f" [10] items) := by
  decide +kernel

end Writing
end Lockstep
