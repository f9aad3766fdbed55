import Mathlib.Data.Option.Basic
import RaceFarm.Proofs.Benchmark.Lines
import RaceFarm.Proofs.Binary64.NumeralChars
import RaceFarm.Proofs.Text.Trimming

namespace RaceFarm

namespace Text

theorem notMem_intercalate {c : Char} {pieces : List (List Char)} (other : c ≠ ',')
    (absent : ∀ piece ∈ pieces, c ∉ piece) : c ∉ [','].intercalate pieces := by
  induction pieces with
  | nil => nofun
  | cons piece pieces ih =>
    cases pieces with
    | nil =>
      rw [List.intercalate_singleton]
      exact absent piece List.mem_cons_self
    | cons next pieces =>
      rw [List.intercalate_cons_cons, List.mem_append, List.mem_append, List.mem_singleton]
      rintro ((front | mark) | later)
      · exact absent piece List.mem_cons_self front
      · exact other mark
      · exact ih (fun p listed => absent p (List.mem_cons_of_mem piece listed)) later

end Text

/-- What stands for the value on a result line: a numeral, a list of them, or a mean with its
    deviation. -/
inductive ValueText where
  | single (numeral : List Char)
  | list (numerals : List (List Char))
  | pair (average deviation : List Char)

namespace ValueText

def chars : ValueText → List Char
  | single numeral => numeral
  | list numerals => '[' :: [','].intercalate numerals ++ [']']
  | pair average deviation => '\x7b' :: average ++ ',' :: deviation ++ ['\x7d']

/-- The sum from left to right, rounded at each term. -/
def total (values : List Binary64) : Binary64 := values.foldl (· + ·) (Binary64.zero true)

def Accepts (numerals : List (List Char)) (values : List Binary64) : Prop :=
  List.Forall₂ (fun numeral value => PerfResult.finite numeral = some value) numerals values

/-- Numerals are finite; the deviation can be anything that does not end the pair. -/
def Denotes : ValueText → Binary64 → Prop
  | single numeral, v => PerfResult.finite numeral = some v
  | list numerals, v => numerals ≠ [] ∧
      ∃ values, Accepts numerals values ∧ v = total values / Binary64.ofNat values.length
  | pair average deviation, v => PerfResult.finite average = some v ∧ '\x7d' ∉ deviation

end ValueText

namespace PerfResult

open Text

/-- Where a line can be taken apart again. -/
structure Printable (r : PerfResult) : Prop where
  graph_filled : r.graph.toList ≠ []
  graph_trimmed : trim r.graph.toList = r.graph.toList
  graph_plain : ':' ∉ r.graph.toList
  trace_filled : r.trace.toList ≠ []
  trace_trimmed : trim r.trace.toList = r.trace.toList
  trace_plain : '=' ∉ r.trace.toList
  units_trimmed : trim r.units.toList = r.units.toList

/-- The line of a result up to its value. -/
def heading (r : PerfResult) : List Char :=
  (if r.important then "*RESULT " else "RESULT ").toList ++
    (r.graph.toList ++ ':' :: ' ' :: (r.trace.toList ++ ['=']))

def line (r : PerfResult) (value : ValueText) : List Char :=
  r.heading ++ ' ' :: (value.chars ++ ' ' :: r.units.toList)

section Numerals

variable {text : List Char} {v : Binary64}

theorem finite_eq_some_iff :
    finite text = some v ↔ Binary64.ofNumeral (trim text) = some v ∧ v.isFinite = true :=
  Option.filter_eq_some_iff

theorem finite_trim (text : List Char) : finite (trim text) = finite text := by
  rw [finite, finite, trim_trim]

theorem trim_chars (read : finite text = some v) : ∀ c ∈ trim text, Binary64.NumeralChar c := by
  obtain ⟨numeral, finite⟩ := finite_eq_some_iff.1 read
  exact Binary64.ofNumeral_chars numeral finite

theorem trim_ne_nil (read : finite text = some v) : trim text ≠ [] := by
  obtain ⟨numeral, -⟩ := finite_eq_some_iff.1 read
  intro empty
  rw [empty] at numeral
  cases numeral

theorem numeral_plain (read : finite text = some v) {c : Char}
    (mark : c ∈ [',', '[', ']', '\x7b', '\x7d']) : c ∉ text := by
  have visible : isBlank c = false := by
    simp only [List.mem_cons, List.not_mem_nil, or_false] at mark
    rcases mark with rfl | rfl | rfl | rfl | rfl <;> rfl
  obtain ⟨lead, tail, blank, blank', parts⟩ := exists_trim text
  rw [parts, List.mem_append, List.mem_append]
  rintro ((front | inside) | back)
  · exact absurd (blank c front) (by simp [visible])
  · exact (trim_chars read c inside).plain.2 mark
  · exact absurd (blank' c back) (by simp [visible])

theorem mapM_finite_iff {numerals : List (List Char)} {values : List Binary64} :
    numerals.mapM finite = some values ↔ ValueText.Accepts numerals values := by
  unfold ValueText.Accepts
  induction numerals generalizing values with
  | nil => simp [eq_comm]
  | cons numeral numerals ih =>
    rw [List.mapM_cons]
    constructor
    · intro read
      simp only [bind, Option.bind_eq_some_iff, pure, Option.some.injEq] at read
      obtain ⟨v, first, others, rest, rfl⟩ := read
      exact .cons first (ih.1 rest)
    · intro accepted
      cases accepted with
      | cons first rest => simp [first, ih.2 rest]

theorem mean_eq_some_iff {text : List Char} :
    mean text = some v ↔ ∃ values, ValueText.Accepts (text.splitOn ',') values ∧
      v = ValueText.total values / Binary64.ofNat values.length := by
  simp only [mean, bind, Option.bind_eq_some_iff, mapM_finite_iff, pure, Option.some.injEq]
  exact exists_congr fun values => and_congr_right fun _ => eq_comm

end Numerals

theorem accepts_plain {numerals : List (List Char)} {values : List Binary64}
    (accepted : ValueText.Accepts numerals values) {c : Char}
    (mark : c ∈ [',', '[', ']', '\x7b', '\x7d']) : ∀ numeral ∈ numerals, c ∉ numeral := by
  induction accepted with
  | nil => nofun
  | cons read _ ih => exact List.forall_mem_cons.2 ⟨numeral_plain read mark, ih⟩

section Values

variable {units : List Char} {v : Binary64}

/-- The units are cut off in the same way after a list and after a pair. -/
theorem trim_closed {first last : Char} (visible : isBlank first = false)
    (visible' : isBlank last = false) (inner units : List Char) :
    trim (' ' :: (first :: inner ++ [last] ++ ' ' :: units)) =
      first :: (inner ++ last :: trimEnd (' ' :: units)) := by
  have closed := trim_of_ends visible visible' inner
  have lead := trim_append_left .space (first :: inner ++ [last] ++ ' ' :: units)
  rw [List.singleton_append] at lead
  rw [lead, trim_append_of_trimmed closed (List.cons_ne_nil _ _)]
  simp

theorem trim_spaced (units : List Char) : trim (trimEnd (' ' :: units)) = trim units := by
  rw [trim_trimEnd]
  exact trim_append_left .space units

theorem readValue_plain {first : Char} (plain : first ≠ '[' ∧ first ≠ '\x7b') (rest : List Char) :
    readValue (first :: rest) =
      let (value, units) := (cut isBlank (first :: rest)).getD (first :: rest, [])
      (finite value).map fun v => (v, units) := by
  unfold readValue
  split
  · rename_i empty
    cases empty
  · rename_i same
    exact absurd (List.cons.inj same).1 plain.1
  · rename_i same
    exact absurd (List.cons.inj same).1 plain.2
  · cases (cut isBlank (first :: rest)).getD (first :: rest, []) with
    | mk numeral units =>
      dsimp only
      cases finite numeral <;> rfl

theorem readValue_cut {inner rest more : List Char} (read : finite inner = some v)
    (trimmed : trim inner = inner)
    (parts : (cut isBlank (inner ++ rest)).getD (inner ++ rest, []) = (inner, more)) :
    readValue (inner ++ rest) = some (v, more) := by
  have chars := trim_chars read
  have filled := trim_ne_nil read
  rw [trimmed] at chars filled
  obtain ⟨first, others, rfl⟩ := List.exists_cons_of_ne_nil filled
  have plain : first ≠ '[' ∧ first ≠ '\x7b' := by
    have other := (chars first List.mem_cons_self).plain.2
    simp only [List.mem_cons, not_or] at other
    exact ⟨other.2.1, other.2.2.2.1⟩
  rw [List.cons_append] at parts ⊢
  rw [readValue_plain plain, parts]
  simp only [read, Option.map_some]

theorem readValue_single {numeral : List Char} (read : finite numeral = some v)
    (trimmed : trim units = units) :
    ∃ rest, readValue (trim (' ' :: (numeral ++ ' ' :: units))) = some (v, rest) ∧
      trim rest = units := by
  obtain ⟨lead, tail, blank, blank', parts⟩ := exists_trim numeral
  have chars := trim_chars read
  have filled := trim_ne_nil read
  have trimmed' := trim_trim numeral
  rw [← finite_trim] at read
  generalize trim numeral = inner at *
  have solid : ∀ c ∈ inner, isBlank c = false := fun c listed => (chars c listed).plain.1
  have spelled : trim (' ' :: (numeral ++ ' ' :: units)) =
      inner ++ trimEnd (tail ++ ' ' :: units) := by
    have split : ' ' :: (numeral ++ ' ' :: units) =
        [' '] ++ lead ++ (inner ++ (tail ++ ' ' :: units)) := by simp [parts]
    rw [split, trim_append_left (AllBlank.space.append blank),
      trim_append_of_trimmed trimmed' filled]
  have after : trim (trimEnd (tail ++ ' ' :: units)) = units := by
    rw [trim_trimEnd, List.append_cons, trim_append_left (blank'.append .space), trimmed]
  obtain ⟨cutOff, -, whole⟩ := exists_trimEnd (tail ++ ' ' :: units)
  rw [spelled]
  -- Without units, the blank after the numeral is trimmed away with the end of the line.
  cases begins : trimEnd (tail ++ ' ' :: units) with
  | nil =>
    refine ⟨[], readValue_cut read trimmed' ?_, by rwa [begins] at after⟩
    rw [List.append_nil, cut_eq_none solid]
    rfl
  | cons c more =>
    rw [begins] at after whole
    have gap : isBlank c = true := by
      cases tail with
      | nil => rw [← (List.cons.inj whole).1]; decide
      | cons b tail => rw [← (List.cons.inj whole).1]; exact blank' b List.mem_cons_self
    refine ⟨more, readValue_cut read trimmed' ?_, ?_⟩
    · rw [cut_append solid gap]
      rfl
    · rw [← after]
      exact (trim_append_left (.singleton gap) more).symm

theorem readValue_list {numerals : List (List Char)} {values : List Binary64}
    (filled : numerals ≠ []) (accepted : ValueText.Accepts numerals values) :
    readValue (trim (' ' :: ((ValueText.list numerals).chars ++ ' ' :: units))) =
      some (ValueText.total values / Binary64.ofNat values.length, trimEnd (' ' :: units)) := by
  have closed : ']' ∉ [','].intercalate numerals :=
    notMem_intercalate (by decide) (accepts_plain accepted (by decide))
  have pieces : ([','].intercalate numerals).splitOn ',' = numerals :=
    List.splitOn_intercalate ',' (accepts_plain accepted (by decide)) filled
  have mean : mean ([','].intercalate numerals) = _ :=
    mean_eq_some_iff.2 ⟨values, by rwa [pieces], rfl⟩
  rw [ValueText.chars, trim_closed (by decide) (by decide)]
  simp only [readValue, cutAt_append closed, mean, bind, Option.bind_some, pure]

theorem readValue_pair {average deviation : List Char} (read : finite average = some v)
    (closed : '\x7d' ∉ deviation) :
    readValue (trim (' ' :: ((ValueText.pair average deviation).chars ++ ' ' :: units))) =
      some (v, trimEnd (' ' :: units)) := by
  have plain : ',' ∉ average := numeral_plain read (by decide)
  have inner : '\x7d' ∉ average ++ ',' :: deviation := by
    rw [List.mem_append, List.mem_cons]
    rintro (front | comma | back)
    · exact numeral_plain read (by decide) front
    · cases comma
    · exact closed back
  have spelled : (ValueText.pair average deviation).chars =
      '\x7b' :: (average ++ ',' :: deviation) ++ ['\x7d'] := rfl
  rw [spelled, trim_closed (by decide) (by decide)]
  simp only [readValue, cutAt_append inner, cutAt_append plain, read, bind, Option.bind_some, pure]

theorem readValue_line {value : ValueText} (denotes : value.Denotes v)
    (trimmed : trim units = units) :
    ∃ rest, readValue (trim (' ' :: (value.chars ++ ' ' :: units))) = some (v, rest) ∧
      trim rest = units := by
  cases value with
  | single numeral => exact readValue_single denotes trimmed
  | list numerals =>
    obtain ⟨filled, values, accepted, rfl⟩ := denotes
    exact ⟨_, readValue_list filled accepted, (trim_spaced units).trans trimmed⟩
  | pair average deviation =>
    obtain ⟨read, closed⟩ := denotes
    exact ⟨_, readValue_pair read closed, (trim_spaced units).trans trimmed⟩

end Values

section Lines

variable {r : PerfResult}

theorem readBody_eq_some_iff {important : Bool} {text : List Char} :
    readBody important text = some r ↔
      ∃ graph trace rest units, text = graph ++ ':' :: (trace ++ '=' :: rest) ∧
        ':' ∉ graph ∧ '=' ∉ trace ∧ trim graph ≠ [] ∧ trim trace ≠ [] ∧
        readValue (trim rest) = some (r.value, units) ∧
        r.graph.toList = trim graph ∧ r.trace.toList = trim trace ∧
        r.units.toList = trim units ∧ r.important = important := by
  constructor
  · intro read
    simp only [readBody, bind, Option.bind_eq_some_iff, Prod.exists] at read
    obtain ⟨graph, afterGraph, first, trace, rest, second, _, guarded, v, units, value, made⟩ :=
      read
    obtain ⟨rfl, plain⟩ := cutAt_eq_some first
    obtain ⟨rfl, plain'⟩ := cutAt_eq_some second
    obtain rfl := Option.some.inj made
    have filled : trim graph ≠ [] ∧ trim trace ≠ [] := by
      by_contra empty
      rw [guard, if_neg empty] at guarded
      cases guarded
    exact ⟨graph, trace, rest, units, rfl, plain, plain', filled.1, filled.2, value,
      String.toList_ofList, String.toList_ofList, String.toList_ofList, rfl⟩
  · rintro ⟨graph, trace, rest, units, rfl, plain, plain', filled, filled', read, same⟩
    obtain ⟨graphSame, traceSame, unitsSame, importantSame⟩ := same
    have kept : r = PerfResult.mk (String.ofList (trim graph)) (String.ofList (trim trace)) r.value
        (String.ofList (trim units)) important := by
      rw [← graphSame, ← traceSame, ← unitsSame, ← importantSame]
      simp
    simp only [readBody, cutAt_append plain, cutAt_append plain', bind, Option.bind_some]
    rw [guard, if_pos ⟨filled, filled'⟩]
    simp only [pure, Option.bind_some, read]
    rw [← kept]

theorem heading_trimmed (r : PerfResult) : trim r.heading = r.heading := by
  cases starred : r.important with
  | true =>
    have ends : r.heading = '*' :: ("RESULT ".toList ++
        (r.graph.toList ++ ':' :: ' ' :: r.trace.toList)) ++ ['='] := by
      simp [heading, starred]
    rw [ends]
    exact trim_of_ends (by decide) (by decide) _
  | false =>
    have ends : r.heading = 'R' :: ("ESULT ".toList ++
        (r.graph.toList ++ ':' :: ' ' :: r.trace.toList)) ++ ['='] := by
      simp [heading, starred]
    rw [ends]
    exact trim_of_ends (by decide) (by decide) _

theorem Printable.of_readBody {important : Bool} {text : List Char}
    (read : readBody important text = some r) : r.Printable := by
  obtain ⟨graph, trace, rest, units, -, plain, plain', filled, filled', -, same, same', unitsSame,
    -⟩ := readBody_eq_some_iff.1 read
  exact {
    graph_filled := same ▸ filled
    graph_trimmed := by rw [same, trim_trim]
    graph_plain := fun listed => plain (mem_of_mem_trim (same ▸ listed))
    trace_filled := same' ▸ filled'
    trace_trimmed := by rw [same', trim_trim]
    trace_plain := fun listed => plain' (mem_of_mem_trim (same' ▸ listed))
    units_trimmed := by rw [unitsSame, trim_trim] }

theorem Printable.readBody_line (printable : r.Printable) {value : ValueText}
    (denotes : value.Denotes r.value) :
    readBody r.important (r.graph.toList ++ ':' :: (' ' :: r.trace.toList ++
      '=' :: trimEnd (' ' :: (value.chars ++ ' ' :: r.units.toList)))) = some r := by
  obtain ⟨rest, read, units⟩ := readValue_line denotes printable.units_trimmed
  have trace : trim (' ' :: r.trace.toList) = r.trace.toList :=
    (trim_append_left .space _).trans printable.trace_trimmed
  refine readBody_eq_some_iff.2 ⟨r.graph.toList, ' ' :: r.trace.toList, _, rest, rfl,
    printable.graph_plain, ?_, ?_, ?_, ?_, printable.graph_trimmed.symm, trace.symm, units.symm,
    rfl⟩
  · rw [List.mem_cons, not_or]
    exact ⟨by decide, printable.trace_plain⟩
  · rw [printable.graph_trimmed]
    exact printable.graph_filled
  · rw [trace]
    exact printable.trace_filled
  · rw [trim_trimEnd]
    exact read

end Lines

end PerfResult

namespace LogLine

open Text

variable {r : PerfResult} {line : List Char}

theorem ofChars_eq_result_iff : ofChars line = .result r ↔ ∃ body,
    (unstarred (trim line)).2 = "RESULT ".toList ++ body ∧
      PerfResult.readBody (unstarred (trim line)).1 body = some r := by
  rw [ofChars_eq]
  constructor
  · intro read
    split at read
    · cases read
    · rename_i body found
      split at read
      · rename_i parsed
        cases read
        exact ⟨body, after_eq_some_iff.1 found, parsed⟩
      · cases read
  · rintro ⟨body, parts, read⟩
    rw [after_eq_some_iff.2 parts]
    simp only [read]

/-- Reading a line gives the result that was printed on it. -/
theorem ofChars_line (printable : r.Printable) {value : ValueText} (denotes : value.Denotes r.value)
    {lead tail : List Char} (blank : AllBlank lead) (blank' : AllBlank tail) :
    ofChars (lead ++ r.line value ++ tail) = .result r := by
  have trimmed : trim (lead ++ r.line value ++ tail) =
      r.heading ++ trimEnd (' ' :: (value.chars ++ ' ' :: r.units.toList)) := by
    rw [trim_padded blank blank']
    exact trim_append_of_trimmed r.heading_trimmed (by simp [PerfResult.heading]) _
  have parts : unstarred (trim (lead ++ r.line value ++ tail)) = (r.important, "RESULT ".toList ++
      (r.graph.toList ++ ':' :: (' ' :: r.trace.toList ++
        '=' :: trimEnd (' ' :: (value.chars ++ ' ' :: r.units.toList))))) := by
    rw [trimmed, PerfResult.heading]
    cases r.important <;> simp [unstarred]
  rw [ofChars_eq_result_iff, parts]
  exact ⟨_, rfl, printable.readBody_line denotes⟩

/-- Printing and reading agree: each undoes the other. -/
theorem reading_inverts_printing :
    (∀ (r : PerfResult) (value : ValueText) (lead tail : List Char), r.Printable →
      value.Denotes r.value → AllBlank lead → AllBlank tail →
        ofChars (lead ++ r.line value ++ tail) = .result r) ∧
    ∀ (line : List Char) (r : PerfResult), ofChars line = .result r → r.Printable ∧
      ∀ numeral, PerfResult.finite numeral = some r.value →
        ofChars (r.line (.single numeral)) = .result r := by
  constructor
  · intro r value lead tail printable denotes blank blank'
    exact ofChars_line printable denotes blank blank'
  · intro line r read
    obtain ⟨body, -, read⟩ := ofChars_eq_result_iff.1 read
    have printable := PerfResult.Printable.of_readBody read
    refine ⟨printable, fun numeral denotes => ?_⟩
    have shown : (ValueText.single numeral).Denotes r.value := denotes
    have again := ofChars_line printable shown .nil .nil
    rwa [List.nil_append, List.append_nil] at again

theorem starred_list_reads_back :
    let two : Binary64 := .finite false ⟨0x4000000000000000, by decide⟩
    let r : PerfResult := ⟨"a = b", "c: d", two, "ms", true⟩
    ofChars ("\u2003 *RESULT a = b: c: d= [1, 3] ms\t".toList) = .result r ∧
      ofChars "*RESULT a = b: c: d= 2e0 ms".toList = .result r := by
  intro two r
  have printable : r.Printable := by constructor <;> decide
  let one : Binary64 := .finite false ⟨0x3ff0000000000000, by decide⟩
  let three : Binary64 := .finite false ⟨0x4008000000000000, by decide⟩
  have accepted : ValueText.Accepts [['1'], [' ', '3']] [one, three] :=
    PerfResult.mapM_finite_iff.1 (by decide +kernel)
  have list : (ValueText.list [['1'], [' ', '3']]).Denotes r.value :=
    ⟨nofun, _, accepted, by decide +kernel⟩
  have blank : AllBlank ['\u2003', ' '] := List.all_eq_true.1 rfl
  have blank' : AllBlank ['\t'] := .singleton rfl
  have spelled : "\u2003 *RESULT a = b: c: d= [1, 3] ms\t".toList =
      ['\u2003', ' '] ++ r.line (.list [['1'], [' ', '3']]) ++ ['\t'] := by decide
  have spelled' : "*RESULT a = b: c: d= 2e0 ms".toList = r.line (.single "2e0".toList) := by decide
  have shown := reading_inverts_printing.1 r _ _ _ printable list blank blank'
  rw [spelled, spelled']
  exact ⟨shown, (reading_inverts_printing.2 _ r shown).2 "2e0".toList (by decide +kernel)⟩

end LogLine

end RaceFarm
