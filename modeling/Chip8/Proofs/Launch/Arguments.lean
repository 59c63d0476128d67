/-
Reading a command line.

A command line is read part by part from the left: options, options with their numbers, and names.
The parts that stand before a request for help, or before an option that lacks its number, say what
has been set by then, and without such a stop all of them do.  An option that takes a number keeps
its last one, and the program is the first name; so the order of the parts does not matter if
nothing is said twice.

* `Text.Reads`, `readNumber_eq_ok_iff` : the texts that are taken for the number of an option;
* `Part`, `Reading`, `exists_reading` : every command line reads as parts and a stop;
* `scan_of_reading`, `foldl_take` : what a scan has set where it stops;
* `parse_perm` : parts that say nothing twice may come in any order;
* `parse_of_reading` : what comes of a command line.
-/
import Chip8.CommandLine

namespace Chip8

namespace Text

/-- The text is a numeral for the number, of at most 4300 digits, all of them decimal. -/
def Reads (text : String) (n : Nat) : Prop :=
  ∃ digits, text.toList.mapM digitValue? = some digits ∧ digits ≠ [] ∧
    digits.length ≤ maxDigits ∧ ofDigits digits = n

/-- A row with a value at each place is a row of decimal digits. -/
theorem all_digits_of_mapM {text : List Char} {digits : List Nat}
    (h : text.mapM digitValue? = some digits) :
    text.all isDigit = true ∧ (text.takeWhile fun c => (digitValue? c).isSome) = text ∧
      digits.length = text.length := by
  induction text generalizing digits with
  | nil =>
    cases h
    exact ⟨rfl, rfl, rfl⟩
  | cons c text ih =>
    rw [List.mapM_cons, Option.bind_eq_bind, Option.bind_eq_some_iff] at h
    obtain ⟨d, hd, h⟩ := h
    rw [Option.bind_eq_bind, Option.bind_eq_some_iff] at h
    obtain ⟨rest, hrest, hdigits⟩ := h
    cases hdigits
    obtain ⟨hall, htake, hlength⟩ := ih hrest
    refine ⟨?_, ?_, congrArg Nat.succ hlength⟩
    · rw [List.all_cons, hall, isDigit, hd]
      rfl
    · rw [List.takeWhile_cons_of_pos (by rw [hd]; rfl), htake]

theorem Numeral.ofString_eq_value_iff {text : String} {n : Nat} :
    Numeral.ofString text = .value n ↔ Reads text n := by
  rw [Numeral.ofString, Numeral.ofChars, Reads]
  cases hdigits : text.toList.mapM digitValue? with
  | none =>
    have hno : ∀ n', (if maxDigits < n' then Numeral.tooLong n' else .notDecimal) ≠ .value n := by
      intro n'
      split <;> exact nofun
    simp only [reduceCtorEq, false_and, exists_false, iff_false]
    split
    · exact nofun
    · exact hno _
  | some digits =>
    obtain ⟨hall, htake, hlength⟩ := all_digits_of_mapM hdigits
    have hempty : text.toList.isEmpty = true ↔ digits = [] := by
      rw [List.isEmpty_iff_length_eq_zero, ← hlength, List.length_eq_zero_iff]
    rw [htake, hall, ← hlength]
    simp only [Option.some.injEq, exists_eq_left', Bool.not_true, Bool.or_false, hempty]
    by_cases hnil : digits = []
    · simp [hnil]
    · by_cases hlong : maxDigits < digits.length
      · simp only [hnil, hlong, if_true, if_false]
        simp [Nat.not_le.mpr hlong]
      · simp [hnil, hlong, Nat.not_lt.mp hlong]

end Text

namespace CommandLine

/-! ### Parts -/

/-- The words that mean something by themselves. -/
def optionWords : List String := ["-h", "--help", "--logs", "--wait-key", "--ticks", "--scale"]

/-- A part of a command line that does not stop the scan. -/
inductive Part where
  | logs
  | waitKey
  | number (option : Numbered) (text : String) (n : Nat) (reads : Text.Reads text n) (pos : 1 ≤ n)
  | name (text : String) (free : text ∉ optionWords)

namespace Part

def words : Part → List String
  | logs => ["--logs"]
  | waitKey => ["--wait-key"]
  | number option text _ _ _ => [option.name, text]
  | name text _ => [text]

@[simp] def isLogs : Part → Bool
  | logs => true
  | _ => false

@[simp] def isWaitKey : Part → Bool
  | waitKey => true
  | _ => false

@[simp] def name? : Part → Option String
  | name text _ => some text
  | _ => none

/-- The number that the part gives to an option. -/
@[simp] def numberFor? (option : Numbered) : Part → Option Nat
  | number option' _ n _ _ => if option' = option then some n else none
  | _ => none

end Part

/-- The last number of an option, or ten if there is none. -/
def lastNumber (option : Numbered) (parts : List Part) : Nat :=
  (parts.filterMap (Part.numberFor? option)).getLast?.getD 10

/-- Where a scan stops. -/
inductive Stop where
  | complete
  | help
  /-- At an option without its number. -/
  | lacking (option : Numbered)

/-- No positive number comes next. -/
def Lacks (rest : List String) : Prop :=
  ∀ text n, rest.head? = some text → Text.Reads text n → n < 1

/-- The command line has these parts up to the stop. -/
inductive Reading : List String → List Part → Stop → Prop
  | complete : Reading [] [] .complete
  | help {word : String} {rest : List String} (h : word = "-h" ∨ word = "--help") :
      Reading (word :: rest) [] .help
  | lacking {option : Numbered} {rest : List String} (h : Lacks rest) :
      Reading (option.name :: rest) [] (.lacking option)
  | part {args : List String} {parts : List Part} {stop : Stop} (p : Part)
      (h : Reading args parts stop) : Reading (p.words ++ args) (p :: parts) stop

theorem reading_words (parts : List Part) :
    Reading (parts.flatMap Part.words) parts .complete := by
  induction parts with
  | nil => exact .complete
  | cons p parts ih =>
    rw [List.flatMap_cons]
    exact .part p ih

/-- The texts that are taken for an argument. -/
def Arg.Covers : Arg → String → Prop
  | help, text => text = "-h" ∨ text = "--help"
  | logs, text => text = "--logs"
  | waitKey, text => text = "--wait-key"
  | numbered option, text => text = option.name
  | name _, text => text ∉ optionWords

theorem covers_of_ofString {text : String} {arg : Arg} (h : Arg.ofString text = arg) :
    arg.Covers text := by
  rw [← h, Arg.ofString]
  by_cases hhelp : text = "-h" ∨ text = "--help"
  · rw [if_pos hhelp]
    exact hhelp
  by_cases hlogs : text = "--logs"
  · rw [if_neg hhelp, if_pos hlogs]
    exact hlogs
  by_cases hwait : text = "--wait-key"
  · rw [if_neg hhelp, if_neg hlogs, if_pos hwait]
    exact hwait
  by_cases hticks : text = "--ticks"
  · rw [if_neg hhelp, if_neg hlogs, if_neg hwait, if_pos hticks]
    exact hticks
  by_cases hscale : text = "--scale"
  · rw [if_neg hhelp, if_neg hlogs, if_neg hwait, if_neg hticks, if_pos hscale]
    exact hscale
  · rw [if_neg hhelp, if_neg hlogs, if_neg hwait, if_neg hticks, if_neg hscale]
    simp_all [Arg.Covers, optionWords]

theorem ofString_of_free {text : String} (h : text ∉ optionWords) :
    Arg.ofString text = .name text := by
  simp only [optionWords, List.mem_cons, List.not_mem_nil, or_false, not_or] at h
  simp [Arg.ofString, h]

theorem readNumber_eq_ok_iff {option : Numbered} {text : String} {n : Nat} :
    readNumber option text = .ok n ↔ Text.Reads text n ∧ 1 ≤ n := by
  rw [readNumber, ← Text.Numeral.ofString_eq_value_iff]
  cases Text.Numeral.ofString text with
  | value k =>
    by_cases hk : k < 1
    · simp only [hk, if_true, Text.Numeral.value.injEq, reduceCtorEq, false_iff]
      omega
    · simp only [hk, if_false, Text.Numeral.value.injEq, Except.ok.injEq]
      omega
  | _ => simp

/-- Every command line reads as parts up to a stop. -/
theorem exists_reading (args : List String) : ∃ parts stop, Reading args parts stop := by
  -- The recursion of the scan: what it goes on with is what the parts are in front of.
  fun_induction scan (.default false) args with
  | case1 s => exact ⟨[], .complete, .complete⟩
  | case2 s arg rest harg => exact ⟨[], .help, .help (covers_of_ofString harg)⟩
  | case3 s arg rest harg ih =>
    obtain ⟨parts, stop, hrest⟩ := ih
    obtain rfl : arg = "--logs" := covers_of_ofString harg
    exact ⟨.logs :: parts, stop, hrest.part .logs⟩
  | case4 s arg rest harg ih =>
    obtain ⟨parts, stop, hrest⟩ := ih
    obtain rfl : arg = "--wait-key" := covers_of_ofString harg
    exact ⟨.waitKey :: parts, stop, hrest.part .waitKey⟩
  | case5 s arg rest name harg ih =>
    obtain ⟨parts, stop, hrest⟩ := ih
    have hfree := covers_of_ofString harg
    exact ⟨.name arg hfree :: parts, stop, hrest.part (.name arg hfree)⟩
  | case6 s arg option harg =>
    obtain rfl : arg = option.name := covers_of_ofString harg
    exact ⟨[], .lacking option, .lacking nofun⟩
  | case7 s arg option harg number rest e he =>
    obtain rfl : arg = option.name := covers_of_ofString harg
    refine ⟨[], .lacking option, .lacking ?_⟩
    intro text n htext hreads
    cases htext
    refine Nat.not_le.mp fun hpos => ?_
    rw [readNumber_eq_ok_iff.mpr ⟨hreads, hpos⟩] at he
    cases he
  | case8 s arg option harg number rest n hn ih =>
    obtain ⟨parts, stop, hrest⟩ := ih
    obtain rfl : arg = option.name := covers_of_ofString harg
    obtain ⟨hreads, hpos⟩ := readNumber_eq_ok_iff.mp hn
    exact ⟨.number option number n hreads hpos :: parts, stop,
      hrest.part (.number option number n hreads hpos)⟩

/-! ### The scan -/

/-- What a part sets. -/
@[simp] def Settings.take (s : Settings) : Part → Settings
  | .logs => { s with logsOn := true }
  | .waitKey => { s with waitForKey := true }
  | .number option _ n _ _ => s.put option n
  | .name text _ => s.putName text

theorem ofString_option_name (option : Numbered) :
    Arg.ofString option.name = .numbered option := by
  cases option <;> rfl

theorem scan_words (s : Settings) (p : Part) (args : List String) :
    scan s (p.words ++ args) = scan (s.take p) args := by
  cases p with
  | logs => rfl
  | waitKey => rfl
  | number option text n reads pos =>
    have hread : readNumber option text = .ok n := readNumber_eq_ok_iff.mpr ⟨reads, pos⟩
    show scan s (option.name :: text :: args) = _
    simp only [scan, ofString_option_name, hread]
    rfl
  | name text free =>
    show scan s (text :: args) = _
    simp only [scan, ofString_of_free free]
    rfl

/-- How a scan ends that stops so. -/
def Stop.Ends : Stop → Ending → Prop
  | complete, ending => ending = .complete
  | help, ending => ending = .help
  | lacking _, ending => ∃ e, ending = .error e

theorem scan_of_lacks (s : Settings) (option : Numbered) {rest : List String} (h : Lacks rest) :
    ∃ e, scan s (option.name :: rest) = (s, .error e) := by
  cases rest with
  | nil => exact ⟨.noNumber option, by simp only [scan, ofString_option_name]⟩
  | cons text rest =>
    cases hread : readNumber option text with
    | error e => exact ⟨e, by simp only [scan, ofString_option_name, hread]⟩
    | ok n =>
      obtain ⟨hreads, hpos⟩ := readNumber_eq_ok_iff.mp hread
      exact absurd (h text n rfl hreads) (Nat.not_lt.mpr hpos)

/-- A scan sets what the parts set, and ends as the stop says. -/
theorem scan_of_reading {args : List String} {parts : List Part} {stop : Stop}
    (h : Reading args parts stop) (s : Settings) :
    (scan s args).1 = parts.foldl Settings.take s ∧ stop.Ends (scan s args).2 := by
  induction h generalizing s with
  | complete => exact ⟨rfl, rfl⟩
  | help hword => rcases hword with rfl | rfl <;> exact ⟨rfl, rfl⟩
  | @lacking option rest hlacks =>
    obtain ⟨e, he⟩ := scan_of_lacks s option hlacks
    rw [he]
    exact ⟨rfl, e, rfl⟩
  | part p _ ih =>
    rw [scan_words]
    exact ih (s.take p)

/-- What a row of parts sets: each option that takes a number has its last one, and the program is
the first name. -/
theorem foldl_take (parts : List Part) (s : Settings) : parts.foldl Settings.take s =
    ⟨s.rom?.or (parts.findSome? Part.name?), s.waitForKey || parts.any Part.isWaitKey,
      (parts.filterMap (Part.numberFor? .ticks)).getLast?.getD s.ticks,
      (parts.filterMap (Part.numberFor? .scale)).getLast?.getD s.scale,
      s.logsOn || parts.any Part.isLogs⟩ := by
  induction parts generalizing s with
  | nil => simp
  | cons p parts ih =>
    rw [List.foldl_cons, ih]
    cases p with
    | logs | waitKey => simp [List.findSome?_cons]
    | number option text n reads pos =>
      -- A later number for the same option takes the place of this one.
      cases option <;> simp [Settings.put, List.findSome?_cons, List.getLast?_cons]
    | name text free =>
      cases hrom : s.rom? <;> simp [Settings.putName, List.findSome?_cons, hrom]

/-! ### What comes of it -/

theorem lastNumber_pos (option : Numbered) (parts : List Part) : 1 ≤ lastNumber option parts := by
  rw [lastNumber]
  cases hlast : (parts.filterMap (Part.numberFor? option)).getLast? with
  | none => decide
  | some n =>
    obtain ⟨p, -, hp⟩ := List.mem_filterMap.mp (List.mem_of_getLast? hlast)
    cases p with
    | number option' text n' reads pos =>
      rw [Part.numberFor?] at hp
      split at hp
      · cases hp
        exact pos
      · cases hp
    | _ => cases hp

/-- What comes of a command line with these parts up to the stop. -/
structure Parsed.Of (parsed : Parsed) (logsOn : Bool) (parts : List Part) (stop : Stop) : Prop where
  logsOn : parsed.logsOn = (logsOn || parts.any Part.isLogs)
  help : stop = .help → parsed.result = .ok none
  lacking : ∀ option, stop = .lacking option → ∃ e, parsed.result = .error e
  complete : stop = .complete → parsed.result = .ok ((parts.findSome? Part.name?).map fun rom =>
    ⟨rom, parts.any Part.isWaitKey, lastNumber .ticks parts, lastNumber .scale parts⟩)

theorem parsed_of_reading {args : List String} {parts : List Part} {stop : Stop}
    (h : Reading args parts stop) (logsOn : Bool) : (parse logsOn args).Of logsOn parts stop := by
  obtain ⟨hset, hends⟩ := scan_of_reading h (.default logsOn)
  rw [foldl_take] at hset
  rw [parse]
  generalize scan (.default logsOn) args = scanned at hset hends
  obtain ⟨s, ending⟩ := scanned
  subst hset
  refine ⟨rfl, ?_, ?_, ?_⟩
  · rintro rfl
    obtain rfl : ending = .help := hends
    rfl
  · rintro option rfl
    obtain ⟨e, rfl⟩ : ∃ e, ending = .error e := hends
    exact ⟨e, rfl⟩
  · rintro rfl
    obtain rfl : ending = .complete := hends
    rfl

/-- Nothing is said twice: at most one name, and at most one number for each option. -/
structure SaidOnce (parts : List Part) : Prop where
  name : (parts.filterMap Part.name?).length ≤ 1
  number : ∀ option, (parts.filterMap (Part.numberFor? option)).length ≤ 1

theorem eq_of_perm_of_length_le_one {α : Type} {row row' : List α} (h : row.Perm row')
    (hlength : row.length ≤ 1) : row = row' := by
  match row with
  | [] => exact (List.nil_perm.mp h).symm
  | [a] => exact List.singleton_perm.mp h
  | _ :: _ :: _ => simp at hlength

/-- Parts that say nothing twice mean the same in any order. -/
theorem parse_perm {parts parts' : List Part} (hperm : parts.Perm parts') (honce : SaidOnce parts)
    (logsOn : Bool) :
    parse logsOn (parts.flatMap Part.words) = parse logsOn (parts'.flatMap Part.words) := by
  -- A row of at most one name, or number, has no order.
  have hname : parts.findSome? Part.name? = parts'.findSome? Part.name? := by
    rw [← List.head?_filterMap, ← List.head?_filterMap,
      eq_of_perm_of_length_le_one (hperm.filterMap _) honce.name]
  have hnumber : ∀ option, parts.filterMap (Part.numberFor? option) =
      parts'.filterMap (Part.numberFor? option) :=
    fun option => eq_of_perm_of_length_le_one (hperm.filterMap _) (honce.number option)
  have hset : parts.foldl Settings.take (.default logsOn) =
      parts'.foldl Settings.take (.default logsOn) := by
    rw [foldl_take, foldl_take, hname, hnumber, hnumber, hperm.any_eq, hperm.any_eq]
  have hscan : ∀ parts : List Part, scan (.default logsOn) (parts.flatMap Part.words) =
      (parts.foldl Settings.take (.default logsOn), .complete) := by
    intro parts
    obtain ⟨hfst, hsnd⟩ := scan_of_reading (reading_words parts) (.default logsOn)
    exact Prod.ext hfst hsnd
  rw [parse, parse, hscan, hscan, hset]

/-- **What a command line says.**  Every command line reads as parts up to a stop: its end, a
request for help, or an option without a positive number behind it.  A request for help asks for the
usage, a number that is missing is an error, and otherwise the first name is the program's, or there
is none and the usage is asked for; each option has its last number, or ten.  The logs are on in all
cases if they were before or a part turned them on.  If no part says again what another has said,
the parts may come in any order. -/
theorem parse_of_reading (logsOn : Bool) :
    (∀ args, ∃ parts stop, Reading args parts stop) ∧
    (∀ args parts stop, Reading args parts stop → (parse logsOn args).Of logsOn parts stop ∧
      1 ≤ lastNumber .ticks parts ∧ 1 ≤ lastNumber .scale parts) ∧
    ∀ parts parts' : List Part, parts.Perm parts' → SaidOnce parts →
      parse logsOn (parts.flatMap Part.words) = parse logsOn (parts'.flatMap Part.words) := by
  refine ⟨exists_reading, ?_, ?_⟩
  · intro args parts stop hreading
    exact ⟨parsed_of_reading hreading logsOn, lastNumber_pos .ticks parts,
      lastNumber_pos .scale parts⟩
  · intro parts parts' hperm honce
    exact parse_perm hperm honce logsOn

/-- A name, an option and an option with its number, in two orders; and an option with a number that
is not positive, before a request for help. -/
theorem parse_of_reading_swapped :
    (parse false ["--scale", "5", "pong.ch8", "--logs"]).logsOn = true ∧
      (parse false ["--scale", "5", "pong.ch8", "--logs"]).result =
        .ok (some ⟨"pong.ch8", false, 10, 5⟩) ∧
      parse false ["--scale", "5", "pong.ch8", "--logs"] =
        parse false ["pong.ch8", "--logs", "--scale", "5"] ∧
      (parse false ["--logs", "--ticks", "0", "-h"]).logsOn = true ∧
      ∃ e, (parse false ["--logs", "--ticks", "0", "-h"]).result = .error e := by
  obtain ⟨-, hof, hperm⟩ := parse_of_reading false
  have hfive : Text.Reads "5" 5 := Text.Numeral.ofString_eq_value_iff.mp (by decide +kernel)
  let scale : Part := .number .scale "5" 5 hfive (by decide)
  let name : Part := .name "pong.ch8" (by decide)
  obtain ⟨hdone, -⟩ := hof _ [scale, name, .logs] .complete (reading_words _)
  have hlacks : Lacks ["0", "-h"] := by
    rintro text n htext hn
    cases htext
    have hzero : Text.Numeral.ofString "0" = .value 0 := by decide +kernel
    rw [Text.Numeral.ofString_eq_value_iff.mpr hn] at hzero
    cases hzero
    decide
  obtain ⟨hstopped, -⟩ := hof _ [.logs] (.lacking .ticks) (.part .logs (.lacking hlacks))
  have honce : SaidOnce [scale, name, .logs] := by
    refine ⟨Nat.le_refl 1, ?_⟩
    intro option
    cases option with
    | ticks => exact Nat.zero_le 1
    | scale => exact Nat.le_refl 1
  refine ⟨hdone.logsOn, hdone.complete rfl, ?_, hstopped.logsOn, hstopped.lacking .ticks rfl⟩
  exact hperm [scale, name, .logs] [name, .logs, scale]
    (List.perm_append_comm : ([scale] ++ [name, .logs]).Perm ([name, .logs] ++ [scale])) honce

end CommandLine
end Chip8
