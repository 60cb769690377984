import Lockstep.Proofs.Overlays

/-! Only a long document is refused for the length of an integer or for the depth of its values.
What a reader leaves is never longer than its input, so that a reader whose faults the length of its
input explains can be made of such readers. -/
namespace Lockstep.Toml

structure Bounds where
  room : Nat
  size : Nat

/-- Whether so long a document can have a fault: it has the digits of a too long integer, and no
more calls are opened than its characters ask for. -/
def Fault.Explained (b : Bounds) : Fault → Prop
  | .malformed => True
  | .integerTooLong => maxShownDigits < b.size
  | .tooDeep => b.room < Reader.callsOfTable * b.size

variable {α β : Type} {m n : Nat} {b : Bounds}

def Outcome.Explained (b : Bounds) (o : Outcome α n) : Prop :=
  ∀ fault, o = .error fault → fault.Explained b

def Reader.Explains (b : Bounds) (r : Reader α) : Prop :=
  ∀ input, input.length ≤ b.size → (r input).Explained b

namespace Outcome

theorem explained_ok (r : Reading α n) : Explained b (.ok r) := nofun

theorem explained_malformed : Explained b (.error .malformed : Outcome α n) := by
  rintro _ ⟨⟩
  trivial

theorem explained_tooDeep (deep : b.room < 3 * b.size) :
    Explained b (.error .tooDeep : Outcome α n) := by
  rintro _ ⟨⟩
  exact deep

theorem Explained.map {o : Outcome α n} (h : o.Explained b) (f : α → β) :
    (o.map f).Explained b := by
  cases o with
  | error e =>
    rintro _ ⟨⟩
    exact h e rfl
  | ok r => exact explained_ok _

theorem Explained.within {o : Outcome α m} (h : o.Explained b) (shorter : m ≤ n) :
    (o.within shorter).Explained b := by
  cases o with
  | error e =>
    rintro _ ⟨⟩
    exact h e rfl
  | ok r => exact explained_ok _

theorem Explained.andThen {o : Outcome α n}
    {next : α → (rest : List Char) → rest.length ≤ n → Outcome β n} (h : o.Explained b)
    (goesOn : ∀ r, o = .ok r → (next r.value r.rest r.bounded).Explained b) :
    (o.andThen next).Explained b := by
  cases o with
  | error e =>
    rintro _ ⟨⟩
    exact h e rfl
  | ok r => exact goesOn r rfl

theorem explained_withFirst {input : List Char}
    {next : Char → (rest : List Char) → rest.length < input.length → Outcome β input.length}
    (goesOn : ∀ c rest shorter, (next c rest shorter).Explained b) :
    (Outcome.withFirst input next).Explained b := by
  cases input with
  | nil => exact explained_malformed
  | cons c rest => exact goesOn c rest _

end Outcome

open Outcome

namespace Reader

theorem explains_pure (a : α) : (pure a : Reader α).Explains b := fun _ _ => explained_ok _

theorem explains_fail : (fail : Reader α).Explains b := fun _ _ => explained_malformed

theorem Explains.bind_of {r : Reader α} {f : α → Reader β} (found : α → Prop)
    (h : r.Explains b)
    (finds : ∀ input, input.length ≤ b.size → ∀ reading, r input = .ok reading →
      found reading.value)
    (goesOn : ∀ a, found a → (f a).Explains b) : (r >>= f).Explains b := by
  intro input short
  refine (h input short).andThen fun reading read => ?_
  have explained := goesOn _ (finds input short reading read) reading.rest
    (Nat.le_trans reading.bounded short)
  exact explained.within reading.bounded

theorem Explains.bind {r : Reader α} {f : α → Reader β} (h : r.Explains b)
    (goesOn : ∀ a, (f a).Explains b) : (r >>= f).Explains b :=
  h.bind_of (fun _ => True) (fun _ _ _ _ => trivial) fun a _ => goesOn a

theorem Explains.map {r : Reader α} (h : r.Explains b) (f : α → β) :
    (r >>= fun a => pure (f a)).Explains b :=
  h.bind fun _ => explains_pure _

theorem Explains.orElse {r r' : Reader α} (h : r.Explains b)
    (h' : r'.Explains b) : (r <|> r').Explains b := by
  intro input short
  simp only [HOrElse.hOrElse, OrElse.orElse]
  split
  · exact h' input short
  · exact h input short

theorem Explains.optional {r : Reader α} (h : r.Explains b) :
    (optional r).Explains b :=
  (h.map some).orElse (explains_pure _)

theorem explains_satisfying (p : Char → Bool) : (satisfying p).Explains b := by
  intro input _
  cases input with
  | nil => exact explained_malformed
  | cons c rest =>
    simp only [satisfying]
    split
    · exact explained_ok _
    · exact explained_malformed

theorem explains_literal (cs : List Char) : (literal cs).Explains b := by
  induction cs with
  | nil => exact explains_pure _
  | cons c cs ih => exact (explains_satisfying _).bind fun _ => ih

theorem explains_run (p : Char → Bool) : (run p).Explains b := fun _ _ => explained_ok _

theorem explains_check (condition : Bool) : (check condition).Explains b := by
  unfold check
  split
  · exact explains_pure _
  · exact explains_fail

/-! ### Numbers -/

theorem exists_moreDigits (p : Char → Bool) (input : List Char) :
    ∃ r, moreDigits p input = .ok r ∧ r.value.length + r.rest.length ≤ input.length := by
  fun_induction moreDigits p input with
  | case1 c rest isDigit ih =>
    obtain ⟨r, read, short⟩ := ih
    rw [read]
    exact ⟨_, rfl, by simp only [Reading.within, Reading.map, List.length_cons]; omega⟩
  | case2 c rest isNone => exact ⟨_, rfl, by simp⟩
  | case3 c rest isNone isDigit ih =>
    obtain ⟨r, read, short⟩ := ih
    rw [read]
    exact ⟨_, rfl, by simp only [Reading.within, Reading.map, List.length_cons]; omega⟩
  | case4 c rest isNone isNone' => exact ⟨_, rfl, by simp⟩
  | case5 => exact ⟨_, rfl, by simp⟩

theorem explains_digits (p : Char → Bool) : (digits p).Explains b := by
  refine (explains_satisfying _).bind fun first => Explains.map (fun input _ => ?_) _
  obtain ⟨r, read, -⟩ := exists_moreDigits p input
  rw [read]
  exact explained_ok r

theorem length_of_digits {p : Char → Bool} {input : List Char}
    {r : Reading (List Char) input.length} (read : digits p input = .ok r) :
    r.value.length ≤ input.length := by
  cases input with
  | nil => cases read
  | cons c rest =>
    obtain ⟨others, more, short⟩ := exists_moreDigits p rest
    unfold digits at read
    simp only [bind, satisfying, Outcome.andThen] at read
    split at read
    · cases read
    next first found =>
      split at found
      · cases found
        simp only [more] at read
        cases read
        simp only [Reading.within, List.length_cons]
        omega
      · cases found

theorem explains_sign : sign.Explains b := (explains_satisfying _).optional.map _

theorem explains_basedInteger (mark : String) (base : Nat) (p : Char → Bool) :
    (basedInteger mark base p).Explains b :=
  (explains_literal _).bind fun _ => (explains_digits p).map _

theorem explains_wholeDigits : wholeDigits.Explains b :=
  ((explains_satisfying _).map _).orElse (explains_digits _)

theorem explains_fraction : fraction.Explains b :=
  (explains_literal _).bind fun _ => explains_digits _

theorem explains_exponent : exponent.Explains b :=
  (explains_satisfying _).bind fun _ => explains_sign.bind fun _ => (explains_digits _).map _

theorem explains_decimalInteger (negative : Bool) {whole : List Char}
    (short : whole.length ≤ b.size) : (decimalInteger negative whole).Explains b := by
  unfold decimalInteger
  split
  next long =>
    rintro input - _ ⟨⟩
    exact Nat.lt_of_lt_of_le long short
  next => exact explains_pure _

theorem length_of_wholeDigits {input : List Char} {r : Reading (List Char) input.length}
    (read : wholeDigits input = .ok r) : r.value.length ≤ input.length := by
  cases input with
  | nil => cases read
  | cons c rest =>
    by_cases zero : c = '0'
    · subst zero
      cases read
      exact Nat.succ_le_succ (Nat.zero_le _)
    · refine length_of_digits (p := isDecimalDigit) (read ▸ ?_)
      simp [wholeDigits, HOrElse.hOrElse, OrElse.orElse, bind, satisfying, zero, Outcome.andThen]

theorem explains_decimalNumber : decimalNumber.Explains b := by
  refine explains_sign.bind fun negative => explains_wholeDigits.bind_of
    (fun whole => whole.length ≤ b.size)
    (fun input short _ read => Nat.le_trans (length_of_wholeDigits read) short)
    fun whole short => ?_
  refine explains_fraction.optional.bind fun places => ?_
  refine explains_exponent.optional.bind fun power => ?_
  split
  · exact explains_decimalInteger negative short
  · exact explains_pure _

theorem explains_number : number.Explains b :=
  (explains_basedInteger _ _ _).orElse <| (explains_basedInteger _ _ _).orElse <|
    (explains_basedInteger _ _ _).orElse explains_decimalNumber

theorem explains_specialNumber : specialNumber.Explains b :=
  explains_sign.bind fun _ => ((explains_literal _).map _).orElse ((explains_literal _).map _)

theorem explains_truthValue : truthValue.Explains b :=
  ((explains_literal _).map _).orElse ((explains_literal _).map _)

/-! ### Dates and times -/

theorem explains_fixedNumber (count : Nat) : (fixedNumber count).Explains b := by
  induction count with
  | zero => exact explains_pure _
  | succ count ih => exact (explains_satisfying _).bind fun _ => ih.map _

theorem explains_date : date.Explains b :=
  (explains_fixedNumber _).bind fun _ => (explains_literal _).bind fun _ =>
    (explains_fixedNumber _).bind fun _ => (explains_literal _).bind fun _ =>
      (explains_fixedNumber _).bind fun _ => (explains_check _).map _

theorem explains_microseconds : microseconds.Explains b :=
  (explains_literal _).bind fun _ => (explains_satisfying _).bind fun _ => (explains_run _).map _

theorem explains_hourAndMinute : hourAndMinute.Explains b :=
  (explains_fixedNumber _).bind fun _ => (explains_literal _).bind fun _ =>
    (explains_fixedNumber _).bind fun _ => (explains_check _).map _

theorem explains_timeOfDay : timeOfDay.Explains b :=
  explains_hourAndMinute.bind fun _ => (explains_literal _).bind fun _ =>
    (explains_fixedNumber _).bind fun _ => (explains_check _).bind fun _ =>
      explains_microseconds.optional.map _

theorem explains_clockOffset : clockOffset.Explains b :=
  ((explains_satisfying _).map _).orElse <|
    (explains_satisfying _).bind fun _ => explains_hourAndMinute.map _

theorem explains_clock : clock.Explains b :=
  (explains_satisfying _).bind fun _ => explains_timeOfDay.bind fun _ =>
    explains_clockOffset.optional.map _

theorem explains_moment : moment.Explains b := by
  refine Explains.orElse (explains_date.bind fun d => explains_clock.optional.bind fun found => ?_)
    (explains_timeOfDay.map _)
  cases found with
  | none => exact explains_pure _
  | some found => exact explains_pure _

/-! ### Texts and keys -/

theorem explains_mapM {γ : Type} {r : γ → Reader α} (h : ∀ x, (r x).Explains b) (xs : List γ) :
    (xs.mapM r).Explains b := by
  have loop (read : List α) : (List.mapM.loop r xs read).Explains b := by
    induction xs generalizing read with
    | nil => exact explains_pure _
    | cons x xs ih => exact (h x).bind fun _ => ih _
  exact loop []

theorem explains_hexCharacter (count : Nat) : (hexCharacter count).Explains b :=
  (explains_mapM (fun _ => explains_satisfying _) _).bind fun _ => (explains_check _).map _

theorem explains_lineContinuation : lineContinuation.Explains b :=
  (explains_run _).bind fun _ => (explains_satisfying _).bind fun _ => (explains_run _).map _

theorem explains_escape (multiline : Bool) : (escape multiline).Explains b :=
  ((explains_satisfying _).map _).orElse <|
    ((explains_literal _).bind fun _ => (explains_hexCharacter 4).map _).orElse <|
      ((explains_literal _).bind fun _ => (explains_hexCharacter 8).map _).orElse <|
        (explains_check _).bind fun _ => explains_lineContinuation.map _

theorem explains_closingQuotes (quote : Char) : (closingQuotes quote).Explains b := by
  refine (explains_satisfying _).optional.bind fun one => ?_
  split
  · exact explains_pure _
  · exact (explains_satisfying _).optional.map _

theorem explains_basicRest (multiline : Bool) : (basicRest multiline).Explains b := by
  intro input short
  fun_induction basicRest multiline input with
  | case1 => exact explained_malformed
  | case2 rest single => exact explained_ok _
  | case3 rest several closing =>
    have shorter := Nat.le_trans (List.drop_sublist 2 rest).length_le (Nat.le_of_succ_le short)
    exact (explains_closingQuotes _ _ shorter).within _
  | case4 rest several inside ih => exact ((ih (Nat.le_of_succ_le short)).map _).within _
  | case5 rest ih =>
    have short := Nat.le_of_succ_le short
    refine ((explains_escape multiline rest short).andThen fun r read => ?_).within _
    exact ((ih _ r.bounded (Nat.le_trans r.bounded short)).map _).within _
  | case6 c rest _ _ refused => exact explained_malformed
  | case7 c rest _ _ kept ih => exact ((ih (Nat.le_of_succ_le short)).map _).within _

theorem explains_literalRest (multiline : Bool) : (literalRest multiline).Explains b := by
  intro input short
  fun_induction literalRest multiline input with
  | case1 => exact explained_malformed
  | case2 rest single => exact explained_ok _
  | case3 rest several closing =>
    have shorter := Nat.le_trans (List.drop_sublist 2 rest).length_le (Nat.le_of_succ_le short)
    exact (explains_closingQuotes _ _ shorter).within _
  | case4 rest several inside ih => exact ((ih (Nat.le_of_succ_le short)).map _).within _
  | case5 c rest _ refused => exact explained_malformed
  | case6 c rest _ kept ih => exact ((ih (Nat.le_of_succ_le short)).map _).within _

theorem explains_quotedLine : quotedLine.Explains b :=
  ((explains_literal _).bind fun _ => (explains_basicRest _).map _).orElse <|
    (explains_literal _).bind fun _ => (explains_literalRest _).map _

theorem explains_quotedLines : quotedLines.Explains b :=
  ((explains_literal _).bind fun _ => (explains_satisfying _).optional.bind fun _ =>
    (explains_basicRest _).map _).orElse <|
      (explains_literal _).bind fun _ => (explains_satisfying _).optional.bind fun _ =>
        (explains_literalRest _).map _

theorem explains_spaces : spaces.Explains b := (explains_run _).map _

theorem explains_keyPart : keyPart.Explains b :=
  (((explains_satisfying _).bind fun _ => (explains_run _).map _).orElse explains_quotedLine).bind
    fun _ => explains_spaces.map _

theorem explains_moreKeyParts : moreKeyParts.Explains b := by
  intro input short
  fun_induction moreKeyParts input with
  | case1 rest ih =>
    have short := Nat.le_of_succ_le short
    have part : Explains b (do spaces; keyPart) := explains_spaces.bind fun _ => explains_keyPart
    refine ((part rest short).andThen fun r read => ?_).within _
    exact ((ih _ r.bounded (Nat.le_trans r.bounded short)).map _).within r.bounded
  | case2 input _ => exact explained_ok _

theorem explains_key : key.Explains b := explains_keyPart.bind fun _ => explains_moreKeyParts.map _

theorem explains_assignedKey : assignedKey.Explains b :=
  explains_key.bind fun _ => (explains_literal _).bind fun _ => explains_spaces.map _

/-! ### Values and documents -/

theorem explains_commentRest : commentRest.Explains b :=
  (explains_run _).bind fun _ => explains_check _

theorem explains_gap : gap.Explains b := by
  intro input short
  fun_induction gap input with
  | case1 => exact explained_ok _
  | case2 c rest blank ih => exact (ih (Nat.le_of_succ_le short)).within _
  | case3 rest _ ih =>
    have short := Nat.le_of_succ_le short
    refine ((explains_commentRest rest short).andThen fun r read => ?_).within _
    exact (ih _ r.bounded (Nat.le_trans r.bounded short)).within r.bounded
  | case4 c rest _ _ => exact explained_ok _

theorem explains_scalar : scalar.Explains b :=
  (explains_quotedLines.map _).orElse <| (explains_quotedLine.map _).orElse <|
    explains_truthValue.orElse <| explains_moment.orElse <|
      explains_number.orElse explains_specialNumber

/-- The readers of values ask for each other on shorter inputs, or for one of an earlier kind. What
is taken from the room is at most three times what is taken from the input. -/
theorem explains_nested (work : Nat) :
    (∀ room input, 3 * input.length < work → b.room + 3 * input.length ≤ room + 3 * b.size →
      input.length ≤ b.size → (value room input).Explained b) ∧
    (∀ room input, 3 * input.length + 1 < work → b.room + 3 * input.length ≤ room + 3 * b.size →
      input.length ≤ b.size → (items room input).Explained b) ∧
    (∀ room input, 3 * input.length + 2 < work → b.room + 3 * input.length ≤ room + 3 * b.size →
      input.length ≤ b.size → (inlineTable room input).Explained b) ∧
    ∀ room t input, 3 * input.length + 1 < work →
      b.room + 3 * input.length ≤ room + 3 * b.size →
        input.length ≤ b.size → (entries room t input).Explained b := by
  have ofList : callsOfList = 2 := rfl
  have ofBraces : callsOfTable = 3 := rfl
  induction work with
  | zero => exact ⟨nofun, nofun, nofun, nofun⟩
  | succ work ih =>
    obtain ⟨ofValue, ofItems, ofTable, ofEntries⟩ := ih
    refine ⟨fun room input small left short => ?_, fun room input small left short => ?_,
      fun room input small left short => ?_, fun room t input small left short => ?_⟩
    · unfold value
      split
      next rest =>
        have : ('[' :: rest).length = rest.length + 1 := rfl
        split
        next full => exact explained_tooDeep (by omega)
        next => exact ((ofItems _ rest (by omega) (by omega) (by omega)).map _).within _
      next rest =>
        have : ('{' :: rest).length = rest.length + 1 := rfl
        split
        next full => exact explained_tooDeep (by omega)
        next => exact ((ofTable _ rest (by omega) (by omega) (by omega)).map _).within _
      next => exact explains_scalar input short
    · unfold items
      refine (explains_gap input short).andThen fun start _ => ?_
      have := start.bounded
      split
      · exact explained_ok _
      refine ((ofValue room start.rest (by omega) (by omega) (by omega)).andThen
        fun item _ => ?_).within _
      have := item.bounded
      refine ((explains_gap item.rest (by omega)).andThen fun next _ => ?_).within _
      have := next.bounded
      refine (explained_withFirst fun c after _ => ?_).within _
      split
      · exact explained_ok _
      split
      · exact ((ofItems room after (by omega) (by omega) (by omega)).map _).within _
      · exact explained_malformed
    · unfold inlineTable
      refine (explains_spaces input short).andThen fun start _ => ?_
      have := start.bounded
      split
      · exact explained_ok _
      · exact (ofEntries room {} start.rest (by omega) (by omega) (by omega)).within _
    · unfold entries
      refine (explains_assignedKey input short).andThen fun k _ => ?_
      have := k.bounded
      refine ((ofValue room k.rest (by omega) (by omega) (by omega)).andThen
        fun v _ => ?_).within _
      have := v.bounded
      split
      · exact explained_malformed
      refine ((explains_spaces v.rest (by omega)).andThen fun next _ => ?_).within _
      have := next.bounded
      refine (explained_withFirst fun c after _ => ?_).within _
      split
      · exact explained_ok _
      split
      · refine ((explains_spaces after (by omega)).andThen fun following _ => ?_).within _
        have := following.bounded
        exact (ofEntries room _ following.rest (by omega) (by omega) (by omega)).within _
      · exact explained_malformed

theorem explains_value : Explains b (value b.room) := fun input short =>
  (explains_nested (3 * input.length + 1)).1 b.room input (Nat.lt_succ_self _) (by omega) short

theorem explains_statement : (statement b.room).Explains b := by
  have header : elementHeader.Explains b :=
    (explains_literal _).bind fun _ => explains_spaces.bind fun _ => explains_key.bind fun _ =>
      (explains_literal _).map _
  have header' : tableHeader.Explains b :=
    (explains_literal _).bind fun _ => explains_spaces.bind fun _ => explains_key.bind fun _ =>
      (explains_literal _).map _
  have assignment : (assignment b.room).Explains b :=
    explains_assignedKey.bind fun _ => explains_value.map _
  intro input short
  unfold statement
  split
  · exact header input short
  · exact header' input short
  · exact explains_pure _ input short
  · exact explains_pure _ input short
  · exact explains_pure _ input short
  · exact assignment input short

theorem explains_line : (line b.room).Explains b :=
  explains_spaces.bind fun _ => explains_statement.bind fun _ => explains_spaces.bind fun _ =>
    ((explains_literal _).bind fun _ => explains_commentRest).optional.map _

end Reader

theorem explained_of_readFrom {d : Document} {input : List Char} {fault : Fault}
    (short : input.length ≤ b.size) (refused : d.readFrom b.room input = .error fault) :
    fault.Explained b := by
  fun_induction Document.readFrom b.room d input with
  | case1 d input e read =>
    cases refused
    exact Reader.explains_line input short _ read
  | case2 | case5 =>
    cases refused
    trivial
  | case3 => cases refused
  | case4 d input r read d' applied more first shorter ih =>
    exact ih (Nat.le_trans (Nat.le_of_lt shorter) short) refused

/-- A document is refused for an integer only if it has more characters than an integer has digits,
and for its depth only if its characters can open more calls than there is room for. -/
theorem explained_of_read {room : Nat} {input : List Char} {fault : Fault}
    (refused : read room input = .error fault) : fault.Explained ⟨room, input.length⟩ :=
  explained_of_readFrom (b := ⟨room, input.length⟩) (Nat.le_refl _) (map_eq_error.mp refused)

end Lockstep.Toml
