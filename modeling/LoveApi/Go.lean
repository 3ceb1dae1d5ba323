import Mathlib.Data.List.DropRight
import Mathlib.Data.Rat.Floor

/-!
# Go's standard library

The functions of Go's standard library that the modelled code calls and Lean does not have; civil dates are in a zone
with a fixed offset.
-/

namespace LoveApi.Go

def isSpace (c : Char) : Bool :=
  c.toNat ∈ [0x09, 0x0a, 0x0b, 0x0c, 0x0d, 0x20, 0x85, 0xa0, 0x1680, 0x2028, 0x2029, 0x202f, 0x205f,
    0x3000] || (0x2000 ≤ c.toNat && c.toNat ≤ 0x200a)

def trimSpace (s : String) : String :=
  String.ofList (((s.toList.dropWhile isSpace).reverse.dropWhile isSpace).reverse)

lemma trimSpace_trimSpace (s : String) : trimSpace (trimSpace s) = trimSpace s := by
  have htrim : ∀ t, trimSpace t = String.ofList ((t.toList.dropWhile isSpace).rdropWhile isSpace) := fun _ => rfl
  rw [htrim, htrim, String.toList_ofList]
  congr 1
  -- what remains starts with a character that is no space
  have hfront : ((s.toList.dropWhile isSpace).rdropWhile isSpace).dropWhile isSpace =
      (s.toList.dropWhile isSpace).rdropWhile isSpace := by
    obtain ⟨rest, hrest⟩ := List.rdropWhile_prefix isSpace (s.toList.dropWhile isSpace)
    cases hl : (s.toList.dropWhile isSpace).rdropWhile isSpace with
    | nil => rfl
    | cons c l =>
      rw [hl] at hrest
      have hc : ¬isSpace c := by
        have := List.dropWhile_idempotent isSpace s.toList
        rw [← hrest, List.cons_append, List.dropWhile_cons] at this
        intro hspace
        rw [if_pos hspace] at this
        have hlen := congrArg List.length this
        have hle := (List.dropWhile_suffix isSpace (l := l ++ rest)).length_le
        rw [List.length_cons] at hlen
        omega
      rw [List.dropWhile_cons_of_neg hc]
  rw [hfront, List.rdropWhile_idempotent]

/-- `strings.Trim` with one character. -/
def trim (s : String) (c : Char) : String :=
  String.ofList (((s.toList.dropWhile (· = c)).reverse.dropWhile (· = c)).reverse)

def contains (s substr : String) : Bool := s.toList.tails.any (substr.toList.isPrefixOf ·)

def hasPrefix (s pre : String) : Bool := pre.toList.isPrefixOf s.toList

def hasSuffix (s suf : String) : Bool := suf.toList.isSuffixOf s.toList

def trimPrefix (s pre : String) : String := if hasPrefix s pre then String.ofList (s.toList.drop pre.length) else s

/-- The parts of `s` between the occurrences of `sep`; `skip` characters of an occurrence are still
to be passed over, and `acc` is the current part, reversed. -/
def splitChars (sep : List Char) : Nat → List Char → List Char → List String
  | _, acc, [] => [String.ofList acc.reverse]
  | skip + 1, acc, _ :: s => splitChars sep skip acc s
  | 0, acc, c :: s =>
    if sep.isPrefixOf (c :: s) then String.ofList acc.reverse :: splitChars sep (sep.length - 1) [] s
    else splitChars sep 0 (c :: acc) s

/-- `strings.Split`, for a separator that is not empty. -/
def split (s sep : String) : List String := splitChars sep.toList 0 [] s.toList

lemma splitChars_ne_nil (sep : List Char) (skip : Nat) (acc s : List Char) : splitChars sep skip acc s ≠ [] := by
  induction s generalizing skip acc with
  | nil => simp [splitChars]
  | cons c s ih =>
    cases skip with
    | succ skip => exact ih skip acc
    | zero =>
      unfold splitChars
      split
      · exact List.cons_ne_nil _ _
      · exact ih 0 (c :: acc)

lemma split_ne_nil (s sep : String) : split s sep ≠ [] := splitChars_ne_nil _ _ _ _

/-- `strings.ToLower` on ASCII letters. -/
def toLower (s : String) : String := String.ofList (s.toList.map Char.toLower)

/-- `strings.EqualFold` on ASCII letters. -/
def equalFold (s t : String) : Bool := toLower s = toLower t

def atoi (s : String) : Option Int :=
  let (sign, digits) : Int × List Char :=
    match s.toList with
    | '-' :: digits => (-1, digits)
    | '+' :: digits => (1, digits)
    | digits => (1, digits)
  let n := sign * digits.foldl (fun n c => 10 * n + (c.toNat - '0'.toNat)) 0
  if digits = [] ∨ digits.any (!Char.isDigit ·) ∨ n < -2 ^ 63 ∨ 2 ^ 63 ≤ n then none else some n

/-- The number that `strconv.Atoi` returns beside its error: 0 for a text that is no number, and the nearest bound for a
number out of range. -/
def atoiValue (s : String) : Int :=
  let (sign, digits) : Int × List Char :=
    match s.toList with
    | '-' :: digits => (-1, digits)
    | '+' :: digits => (1, digits)
    | digits => (1, digits)
  let n := sign * digits.foldl (fun n c => 10 * n + (c.toNat - '0'.toNat)) 0
  if digits = [] ∨ digits.any (!Char.isDigit ·) then 0 else max (-2 ^ 63) (min n (2 ^ 63 - 1))

example : split "MJ::JOB::upsample::2" "::" = ["MJ", "JOB", "upsample", "2"] := by decide +kernel

/-- A slice: its elements, and what lies between its length and its capacity. -/
structure Slice (α : Type) where
  elems : List α
  spare : List α := []

/-- `s[:n]`, which panics beyond the capacity. -/
def Slice.upTo {α : Type} (s : Slice α) (n : Nat) : Option (List α) :=
  if n ≤ s.elems.length + s.spare.length then some ((s.elems ++ s.spare).take n) else none

/-- The order in which `range` visits the entries of a map. -/
structure MapOrder where
  range : {α : Type} → List α → List α := fun l => l
  perm : ∀ {α : Type} (l : List α), (range l).Perm l := by exact fun _ => .refl _

section Groups

variable {κ α : Type} [DecidableEq κ]

/-- `m[key] = append(m[key], value)`. -/
def appendTo (key : κ) (value : α) : List (κ × List α) → List (κ × List α)
  | [] => [(key, [value])]
  | (k, values) :: rest =>
    if k = key then (k, values ++ [value]) :: rest else (k, values) :: appendTo key value rest

def groups (entries : List (κ × α)) : List (κ × List α) :=
  entries.foldl (fun m e => appendTo e.1 e.2 m) []

lemma appendTo_flatMap {key : κ} {value : α} {m : List (κ × List α)} :
    ((appendTo key value m).flatMap Prod.snd).Perm (m.flatMap Prod.snd ++ [value]) := by
  induction m with
  | nil => simp [appendTo]
  | cons e rest ih =>
    obtain ⟨k, values⟩ := e
    unfold appendTo
    by_cases hk : k = key
    · rw [if_pos hk]
      simp only [List.flatMap_cons, List.append_assoc]
      exact List.Perm.append_left values List.perm_append_comm
    · rw [if_neg hk]
      simp only [List.flatMap_cons, List.append_assoc]
      exact ih.append_left values

lemma mem_of_mem_appendTo {key : κ} {value : α} {m : List (κ × List α)} {k : κ} {vs : List α} {v : α}
    (h : (k, vs) ∈ appendTo key value m) (hv : v ∈ vs) :
    (k = key ∧ v = value) ∨ ∃ ws, (k, ws) ∈ m ∧ v ∈ ws := by
  induction m with
  | nil =>
    simp only [appendTo, List.mem_singleton, Prod.mk.injEq] at h
    obtain ⟨rfl, rfl⟩ := h
    exact .inl ⟨rfl, List.mem_singleton.mp hv⟩
  | cons e rest ih =>
    obtain ⟨k', values⟩ := e
    unfold appendTo at h
    split at h <;> rcases List.mem_cons.mp h with he | hr
    · next hk =>
      cases he
      rcases List.mem_append.mp hv with hv | hv
      · exact .inr ⟨values, List.mem_cons_self, hv⟩
      · exact .inl ⟨hk, List.mem_singleton.mp hv⟩
    · exact .inr ⟨vs, List.mem_cons_of_mem _ hr, hv⟩
    · cases he
      exact .inr ⟨vs, List.mem_cons_self, hv⟩
    · rcases ih hr with h | ⟨ws, hws, hv⟩
      · exact .inl h
      · exact .inr ⟨ws, List.mem_cons_of_mem _ hws, hv⟩

lemma groups_flatMap (entries : List (κ × α)) : ((groups entries).flatMap Prod.snd).Perm (entries.map Prod.snd) := by
  induction entries using List.reverseRecOn with
  | nil => exact .refl _
  | append_singleton entries e ih =>
    unfold groups at ih ⊢
    rw [List.foldl_concat, List.map_append]
    exact (appendTo_flatMap).trans (ih.append_right _)

lemma mem_of_mem_groups {entries : List (κ × α)} {k : κ} {vs : List α} {v : α}
    (h : (k, vs) ∈ groups entries) (hv : v ∈ vs) : (k, v) ∈ entries := by
  induction entries using List.reverseRecOn generalizing k vs v with
  | nil => simp [groups] at h
  | append_singleton entries e ih =>
    unfold groups at ih h
    rw [List.foldl_concat] at h
    rcases mem_of_mem_appendTo h hv with ⟨rfl, rfl⟩ | ⟨ws, hws, hv⟩
    · exact List.mem_append_right _ List.mem_cons_self
    · exact List.mem_append_left _ (ih hws hv)

end Groups

/-- `int(q)`, which drops the fraction. -/
def int (q : ℚ) : Int := if 0 ≤ q then ⌊q⌋ else ⌈q⌉

lemma int_nonneg {q : ℚ} (h : 0 ≤ q) : 0 ≤ int q := by
  rw [int, if_pos h]
  exact Int.floor_nonneg.mpr h

/-- `math.Round` and `decimal.Round(0)`, which take halves away from zero. -/
def roundHalfAway (q : ℚ) : Int := if 0 ≤ q then ⌊q + 1 / 2⌋ else -⌊-q + 1 / 2⌋

/-- `decimal.Div`, which keeps 16 digits after the point. -/
def decimalDiv (x y : ℚ) : ℚ := roundHalfAway (x / y * 10 ^ 16) / 10 ^ 16

abbrev Time := Int

def zeroTime : Time := -62135596800

def secondsPerDay : Int := 86400

/-- The days since 1970-01-01 of a date of the Gregorian calendar. The year is taken to
start in March, so that a leap day is its last day. -/
def daysFromCivil (year month day : Int) : Int :=
  let y := if month ≤ 2 then year - 1 else year
  let era := y / 400
  let yearOfEra := y - era * 400
  let dayOfYear := (153 * (if month ≤ 2 then month + 9 else month - 3) + 2) / 5 + day - 1
  let dayOfEra := yearOfEra * 365 + yearOfEra / 4 - yearOfEra / 100 + dayOfYear
  era * 146097 + dayOfEra - 719468

def yearMonth (days : Int) : Int × Int :=
  let z := days + 719468
  let era := z / 146097
  let dayOfEra := z - era * 146097
  let yearOfEra := (dayOfEra - dayOfEra / 1460 + dayOfEra / 36524 - dayOfEra / 146096) / 365
  let dayOfYear := dayOfEra - (365 * yearOfEra + yearOfEra / 4 - yearOfEra / 100)
  let m := (5 * dayOfYear + 2) / 153
  let month := if m < 10 then m + 3 else m - 9
  (yearOfEra + era * 400 + (if month ≤ 2 then 1 else 0), month)

def localDay (utcOffset : Int) (t : Time) : Int := (t + utcOffset) / secondsPerDay

def startOfDay (utcOffset day : Int) : Time := day * secondsPerDay - utcOffset

/-- `time.Weekday` of a day: Sunday is 0, and 1970-01-01 was a Thursday. -/
def weekday (day : Int) : Int := (day + 4) % 7

def firstOfNextMonth (day : Int) : Int :=
  let (year, month) := yearMonth day
  if month = 12 then daysFromCivil (year + 1) 1 1 else daysFromCivil year (month + 1) 1

/-- `time.AddDate`: the fields of the local date are added up, then months above 12 go into the
year and days beyond the month into the following ones. -/
def addDate (utcOffset : Int) (t : Time) (years months days : Int) : Time :=
  let day := localDay utcOffset t
  let (year, month) := yearMonth day
  let dayOfMonth := day - daysFromCivil year month 1
  let months := month - 1 + months
  let first := daysFromCivil (year + years + months / 12) (months % 12 + 1) 1
  startOfDay utcOffset (first + dayOfMonth + days) + (t + utcOffset) % secondsPerDay

example : addDate 0 (startOfDay 0 (daysFromCivil 2025 1 31)) 0 1 0 =
    startOfDay 0 (daysFromCivil 2025 3 3) := by decide

example : yearMonth (daysFromCivil 2024 2 29) = (2024, 2) := by decide

example : startOfDay 0 (firstOfNextMonth (localDay 0 1735689599)) = 1735689600 := by decide

end LoveApi.Go
