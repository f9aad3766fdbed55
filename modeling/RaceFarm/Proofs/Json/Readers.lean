import RaceFarm.Json.Decode
import RaceFarm.Proofs.Json.Layout

namespace RaceFarm.Json

section Tokens

variable {gap mark rest : List Char}

theorem skipSpace_gap (blank : Gap gap) {c : Char} (visible : isSpace c = false) :
    skipSpace (gap ++ c :: rest) = c :: rest := by
  rw [skipSpace, List.dropWhile_append_of_pos blank, List.dropWhile_cons_of_neg (by simp [visible])]

theorem skipSpace_cons {c : Char} (visible : isSpace c = false) :
    skipSpace (c :: rest) = c :: rest := skipSpace_gap .nil visible

theorem skipSpace_blank (blank : Gap gap) : skipSpace gap = [] :=
  List.dropWhile_eq_nil_iff.2 blank

theorem colon_gap (blank : Gap gap) (rest : List Char) : colon (gap ++ ':' :: rest) = .ok rest := by
  simp only [colon, skipSpace_gap blank (show isSpace ':' = false from rfl)]

theorem nextItem_more {first : Bool} (separates : Separates first mark) {c : Char}
    (visible : isSpace c = false) (other : c ≠ ']') :
    nextItem first (mark ++ c :: rest) = .ok (true, c :: rest) := by
  cases first with
  | true => simp [nextItem, skipSpace_gap (show Gap mark from separates) visible]
  | false =>
    obtain ⟨before, after, blank, blank', rfl⟩ := separates
    have comma : isSpace ',' = false := rfl
    rw [List.append_assoc, List.cons_append]
    simp [nextItem, skipSpace_gap blank comma, skipSpace_gap blank' visible, other]

theorem nextItem_end (first : Bool) (blank : Gap gap) :
    nextItem first (gap ++ ']' :: rest) = .ok (false, ']' :: rest) := by
  simp only [nextItem, skipSpace_gap blank (show isSpace ']' = false from rfl)]

theorem closeList_end (rest : List Char) : closeList (']' :: rest) = .ok rest := by
  simp only [closeList, skipSpace_cons (show isSpace ']' = false from rfl)]

theorem nextKey_more {first : Bool} (separates : Separates first mark) (key : String) :
    nextKey first (mark ++ (stringText key ++ rest)) = .ok (some key, rest) := by
  have opened : stringText key = '"' :: (stringText key).tail := rfl
  have quote : isSpace '"' = false := rfl
  rw [opened, List.cons_append]
  cases first with
  | true =>
    simp [nextKey, skipSpace_gap (show Gap mark from separates) quote, string_stringText, bind,
      Except.bind, pure, Except.pure]
  | false =>
    obtain ⟨before, after, blank, blank', rfl⟩ := separates
    have comma : isSpace ',' = false := rfl
    rw [List.append_assoc, List.cons_append]
    simp [nextKey, skipSpace_gap blank comma, skipSpace_gap blank' quote, string_stringText, bind,
      Except.bind, pure, Except.pure]

theorem nextKey_end (first : Bool) (blank : Gap gap) :
    nextKey first (gap ++ '\x7d' :: rest) = .ok (none, rest) := by
  simp only [nextKey, skipSpace_gap blank (show isSpace '\x7d' = false from rfl)]

end Tokens

theorem isSpace_iff {c : Char} : isSpace c = true ↔ c = ' ' ∨ c = '\n' ∨ c = '\t' ∨ c = '\r' := by
  simp [isSpace, or_assoc]

theorem visible_of_numeric {c : Char} (numeric : isNumeric c = true) :
    isSpace c = false ∧ c ≠ ']' := by
  constructor
  · rw [← Bool.not_eq_true, isSpace_iff]
    rintro (rfl | rfl | rfl | rfl) <;> cases numeric
  · rintro rfl
    cases numeric

section Values

variable {α : Type} {read : Reader α} {v : Json} {x : α}

/-- What may follow a value. -/
def Follows (rest : List Char) : Prop :=
  ∀ c, rest.head? = some c → isSpace c = true ∨ c ∈ [',', ']', '\x7d']

/-- Reads a value off the front of a text, however it is spelled. -/
def Reads (read : Reader α) (v : Json) (x : α) : Prop :=
  ∀ ⦃gap text rest : List Char⦄, Gap gap → Spells v text → Follows rest →
    read (gap ++ (text ++ rest)) = .ok (x, rest)

def Refuses (read : Reader α) (v : Json) : Prop :=
  ∀ ⦃gap text rest : List Char⦄, Gap gap → Spells v text → Follows rest →
    ∃ fault, read (gap ++ (text ++ rest)) = .error fault

theorem Gap.follows {gap : List Char} (blank : Gap gap) : Follows gap := by
  intro c first
  exact .inl (blank c (List.mem_of_mem_head? first))

theorem Reads.decode (reads : Reads read v x) {text : String} (document : Document v text) :
    Json.decode read text = .ok x := by
  obtain ⟨before, body, after, blank, spelled, blank', parts⟩ := document
  rw [Json.decode, parts, reads blank spelled blank'.follows]
  simp [bind, Except.bind, pure, Except.pure, skipSpace_blank blank']

theorem Refuses.decode (refuses : Refuses read v) {text : String} (document : Document v text) :
    ∃ fault, Json.decode read text = .error fault := by
  obtain ⟨before, body, after, blank, spelled, blank', parts⟩ := document
  obtain ⟨fault, failed⟩ := refuses blank spelled blank'.follows
  exact ⟨fault, by rw [Json.decode, parts, failed]; rfl⟩

theorem spells_opens {text : List Char} (spelled : Spells v text) :
    ∃ c more, text = c :: more ∧ isSpace c = false ∧ c ≠ ']' := by
  have number : ∀ {text : List Char}, text ≠ [] ∧ AllNumeric text →
      ∃ c more, text = c :: more ∧ isSpace c = false ∧ c ≠ ']' := by
    rintro text ⟨filled, numeric⟩
    obtain ⟨c, more, rfl⟩ := List.exists_cons_of_ne_nil filled
    exact ⟨c, more, rfl, visible_of_numeric (numeric c List.mem_cons_self)⟩
  cases v with
  | null => exact ⟨'n', _, spelled, rfl, by decide⟩
  | bool value => cases value <;> exact ⟨_, _, spelled, rfl, by decide⟩
  | whole n =>
    obtain rfl : text = wholeText n := spelled
    exact number (wholeText_numeric n)
  | real x =>
    obtain rfl : text = realText x := spelled
    by_cases finite : x.isFinite = true
    · exact number (realText_numeric finite)
    · exact ⟨'n', _, if_neg finite, rfl, by decide⟩
  | str s => exact ⟨'"', _, spelled, rfl, by decide⟩
  | list items =>
    obtain ⟨inner, -, rfl⟩ := spelled
    exact ⟨'[', inner, rfl, rfl, by decide⟩
  | object members =>
    obtain ⟨inner, -, rfl⟩ := spelled
    exact ⟨'\x7b', inner, rfl, rfl, by decide⟩

theorem readString_reads (s : String) : Reads readString (.str s) s := by
  intro gap text rest blank spelled _
  obtain rfl : text = '"' :: (stringText s).tail := spelled
  rw [List.cons_append]
  simp only [readString, skipSpace_gap blank (show isSpace '"' = false from rfl),
    string_stringText]

/-- A digit, a point or the mark of an exponent would go on with the number. -/
theorem Follows.ends_number {rest : List Char} (follows : Follows rest) (c : Char)
    (more : List Char) (start : rest = c :: more) :
    c.isDigit = false ∧ c ≠ '.' ∧ c ≠ 'e' ∧ c ≠ 'E' := by
  rcases follows c (by rw [start]; rfl) with space | listed
  · rcases isSpace_iff.1 space with rfl | rfl | rfl | rfl <;> decide
  · simp only [List.mem_cons, List.not_mem_nil, or_false] at listed
    rcases listed with rfl | rfl | rfl <;> decide

theorem digits_append {digits rest : List Char} (all : AllDigits digits)
    (ends : ∀ c more, rest = c :: more → c.isDigit = false) :
    (digits ++ rest).takeWhile Char.isDigit = digits ∧
      (digits ++ rest).dropWhile Char.isDigit = rest := by
  rw [List.takeWhile_append_of_pos all, List.dropWhile_append_of_pos all]
  cases rest with
  | nil => exact ⟨List.append_nil _, rfl⟩
  | cons c more => simp [ends c more rfl]

/-- How a number is read that shows that it need not be whole. -/
def readNumeral (negative : Bool) (n : Binary64.Numeral) : Except Fault Binary64 := do
  if n.whole.head? = some '0' ∧ 1 < n.whole.length then throw .malformed
  let (significand, taken) := gather 0 n.whole
  let (significand, taken') := gather significand (n.fraction.getD [])
  scaled negative significand
    ((n.whole.length : Int) - taken - taken' + n.exponent.getD 0)

theorem exponentPart_append (exponent : Int) {rest : List Char} (follows : Follows rest) :
    exponentPart ((Binary64.Numeral.exponentText exponent).tail ++ rest) =
      .ok (exponent, rest) := by
  obtain ⟨taken, dropped⟩ := digits_append (.toDigits exponent.natAbs)
    fun c more start => (follows.ends_number c more start).1
  have filled : Nat.toDigits 10 exponent.natAbs ≠ [] := Nat.toDigits_ne_nil
  by_cases negative : exponent < 0
  · have value : -(exponent.natAbs : Int) = exponent := by omega
    simp only [Binary64.Numeral.exponentText, if_pos negative, List.tail_cons, List.cons_append,
      exponentPart, Binary64.takeSign, taken, dropped, if_neg filled, if_true,
      Binary64.ofDigits_toDigits, value]
  · have value : (exponent.natAbs : Int) = exponent := by omega
    simp only [Binary64.Numeral.exponentText, if_neg negative, List.tail_cons, List.cons_append,
      exponentPart, Binary64.takeSign, taken, dropped, if_neg filled, Bool.false_eq_true, if_false,
      Binary64.ofDigits_toDigits, value]

theorem gather_nil (significand : Nat) : gather significand [] = (significand, 0) := rfl

section Numbers

open Binary64 (Numeral)

variable {n : Numeral} {rest : List Char}

theorem tail_ends (n : Numeral) (follows : Follows rest) (c : Char) (more : List Char)
    (start : n.tail ++ rest = c :: more) : c.isDigit = false := by
  rw [Numeral.tail] at start
  cases exponent : n.exponent with
  | none =>
    rw [exponent] at start
    exact (follows.ends_number c more start).1
  | some shift =>
    rw [exponent] at start
    cases start
    rfl

theorem afterWhole_ends (n : Numeral) (follows : Follows rest) (c : Char) (more : List Char)
    (start : n.fraction.elim [] ('.' :: ·) ++ (n.tail ++ rest) = c :: more) :
    c.isDigit = false := by
  cases given : n.fraction with
  | none =>
    rw [given] at start
    exact tail_ends n follows c more start
  | some fraction =>
    rw [given] at start
    cases start
    rfl

theorem number_append (proper : n.Proper) (filled : n.fraction ≠ some []) (negative : Bool)
    (follows : Follows rest) : number negative (n.text ++ rest) =
      (readNumeral negative n).map fun x => (.real x, rest) := by
  obtain ⟨c, whole, spelled⟩ := List.exists_cons_of_ne_nil proper.filled
  obtain ⟨digit, digits⟩ := List.forall_mem_cons.1 (spelled ▸ proper.whole)
  obtain ⟨taken, dropped⟩ := digits_append digits (afterWhole_ends n follows)
  have written : n.text ++ rest =
      c :: (whole ++ (n.fraction.elim [] ('.' :: ·) ++ (n.tail ++ rest))) := by
    simp [Numeral.text, Numeral.tail, spelled]
  rw [written, readNumeral, spelled]
  by_cases zero : c = '0' ∧ 1 < (c :: whole).length
  · simp only [number, digit, taken, if_true, if_pos zero, List.head?_cons, Option.some.injEq, bind,
      Except.bind, throw, throwThe, MonadExceptOf.throw, Except.map]
  · cases given : n.fraction with
    | none =>
      obtain ⟨shift, exponent⟩ := Option.ne_none_iff_exists'.1 (proper.marked given)
      have marked : n.tail = 'e' :: (Numeral.exponentText shift).tail := by
        rw [Numeral.tail, exponent]
        rfl
      rw [given, marked] at dropped taken
      rw [exponent, marked]
      simp only [Option.elim_none, List.nil_append, List.cons_append] at dropped taken ⊢
      simp only [number, digit, taken, dropped, exponentPart_append shift follows, if_true,
        if_neg zero, gather_nil, List.head?_cons, Option.some.injEq, bind, Except.bind, pure,
        Except.pure, List.cons.injEq, Char.reduceEq, false_and, imp_self, implies_true, true_or,
        or_true, Option.getD_some, Option.getD_none, Nat.cast_zero, sub_zero, Except.map]
    | some fraction =>
      have fractional : AllDigits fraction := by simpa [given] using proper.fraction
      have nonempty : fraction ≠ [] := fun empty => filled (empty ▸ given)
      obtain ⟨taken', dropped'⟩ := digits_append fractional (tail_ends n follows)
      rw [given] at dropped taken
      simp only [Option.elim_some, List.cons_append] at dropped taken ⊢
      cases exponent : n.exponent with
      | none =>
        have unmarked : n.tail = [] := by rw [Numeral.tail, exponent]; rfl
        rw [unmarked, List.nil_append] at taken dropped taken' dropped' ⊢
        simp only [number, digit, taken, dropped, taken', dropped', if_true, if_neg zero,
          if_neg nonempty, List.head?_cons, Option.some.injEq, bind, Except.bind, pure, Except.pure,
          true_or, Option.getD_some, Option.getD_none, add_zero, Except.map]
        split
        · exact absurd rfl (follows.ends_number _ _ rfl).2.2.1
        · exact absurd rfl (follows.ends_number _ _ rfl).2.2.2
        · rfl
      | some shift =>
        have marked : n.tail = 'e' :: (Numeral.exponentText shift).tail := by
          rw [Numeral.tail, exponent]
          rfl
        rw [marked, List.cons_append] at taken dropped taken' dropped' ⊢
        simp only [number, digit, taken, dropped, taken', dropped',
          exponentPart_append shift follows, if_true, if_neg zero, if_neg nonempty,
          List.head?_cons, Option.some.injEq, bind, Except.bind, pure, Except.pure, true_or,
          Option.getD_some, Except.map]

theorem number_unfilled (proper : n.Proper) (unfilled : n.fraction = some []) (negative : Bool) :
    ∃ fault, number negative n.text = .error fault := by
  obtain ⟨c, whole, spelled⟩ := List.exists_cons_of_ne_nil proper.filled
  obtain ⟨digit, digits⟩ := List.forall_mem_cons.1 (spelled ▸ proper.whole)
  obtain ⟨taken, dropped⟩ := digits_append digits (afterWhole_ends n Gap.nil.follows)
  have nothing : AllDigits [] := nofun
  obtain ⟨taken', -⟩ := digits_append nothing (tail_ends n Gap.nil.follows)
  have written : n.text = c :: (whole ++ '.' :: n.tail) := by
    simp [Numeral.text, Numeral.tail, spelled, unfilled]
  rw [unfilled] at taken dropped
  simp only [Option.elim_some, List.cons_append, List.nil_append,
    List.append_nil] at taken dropped taken'
  rw [written]
  by_cases zero : c = '0' ∧ 1 < (c :: whole).length
  · refine ⟨.malformed, ?_⟩
    simp only [number, digit, taken, if_true, if_pos zero, bind, Except.bind, throw, throwThe,
      MonadExceptOf.throw]
  · refine ⟨if n.tail.dropWhile Char.isDigit = [] then .truncated else .malformed, ?_⟩
    simp only [number, digit, taken, dropped, taken', if_true, if_neg zero, bind, Except.bind,
      throw, throwThe, MonadExceptOf.throw, pure, Except.pure]

theorem readReal_signed (proper : n.Proper) (negative : Bool) {gap : List Char} (blank : Gap gap)
    (rest : List Char) :
    readReal (gap ++ ((if negative then ['-'] else []) ++ n.text ++ rest)) =
      (number negative (n.text ++ rest)).map fun (x, rest) => (x.toBinary64, rest) := by
  cases negative with
  | true =>
    simp only [if_true, List.cons_append, List.nil_append, readReal,
      skipSpace_gap blank (show isSpace '-' = false from rfl)]
    cases number true (n.text ++ rest) <;> rfl
  | false =>
    obtain ⟨c, whole, spelled⟩ := List.exists_cons_of_ne_nil proper.filled
    have digit : c.isDigit = true := proper.whole c (by rw [spelled]; exact List.mem_cons_self)
    have visible := (visible_of_numeric (isNumeric_of_isDigit digit)).1
    have unsigned : c ≠ '-' := by
      rintro rfl
      cases digit
    simp only [Bool.false_eq_true, if_false, Numeral.text, spelled, List.cons_append,
      List.nil_append, readReal, skipSpace_gap blank visible, if_pos digit]
    cases number false _ <;> rfl

/-- A double whose text reads back as it does so wherever the text stands. -/
theorem readReal_reads {x : Binary64} (finite : x.isFinite = true)
    (exact : Json.decode readReal (String.ofList (realText x)) = .ok x) :
    Reads readReal (.real x) x := by
  obtain ⟨negative, n, proper, written⟩ := realText_numeral finite
  have alone := readReal_signed proper negative .nil []
  rw [Json.decode, String.toList_ofList, written] at exact
  simp only [List.nil_append, List.append_nil] at alone
  rw [alone] at exact
  have filled : n.fraction ≠ some [] := by
    intro unfilled
    obtain ⟨fault, failed⟩ := number_unfilled proper unfilled negative
    rw [failed] at exact
    cases exact
  have same := number_append proper filled negative Gap.nil.follows
  rw [List.append_nil] at same
  rw [same] at exact
  intro gap text rest blank spelled follows
  obtain rfl : text = realText x := spelled
  rw [written, readReal_signed proper negative blank, number_append proper filled negative follows]
  cases read : readNumeral negative n with
  | error fault =>
    rw [read] at exact
    cases exact
  | ok y =>
    rw [read] at exact
    cases exact
    rfl

end Numbers

theorem readChoice_reads {known : List (String × α)} {name : String}
    (found : known.lookup name = some x) : Reads (readChoice known) (.str name) x := by
  intro gap text rest blank spelled _
  obtain rfl : text = '"' :: (stringText name).tail := spelled
  rw [List.cons_append]
  simp only [readChoice, skipSpace_gap blank (show isSpace '"' = false from rfl),
    string_stringText, named, found, bind, Except.bind, pure, Except.pure]

theorem follows_gap {gap : List Char} (blank : Gap gap) {c : Char} (plain : c ∈ [',', ']', '\x7d'])
    (rest : List Char) : Follows (gap ++ c :: rest) := by
  intro d start
  cases gap with
  | nil => cases start; exact .inr plain
  | cons b gap => cases start; exact blank.follows _ rfl

end Values

end RaceFarm.Json
