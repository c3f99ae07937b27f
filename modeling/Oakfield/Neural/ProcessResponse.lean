import Oakfield.KernelIR.Evaluator
import Mathlib.Data.List.Induction
import Mathlib.Data.List.Perm.Basic

/-! The reader of the line protocol of neural models which run as external processes. -/
namespace Oakfield.Neural

open KernelIR

variable {D V : Type}

/-! ### Lines -/

/-- The terminator of a C string. -/
def nul : Char := Char.ofNat 0

/-- A line of a response without its newline, which fits the line buffer with the newline
and the terminator. -/
structure ResponseLine where
  chars : List Char
  oneLine : '\n' ∉ chars
  noNul : nul ∉ chars
  fits : chars.length + 2 ≤ 512

/-- The line buffer after `line[strcspn(line, "\r\n")] = '\0'`. -/
def ResponseLine.buffer (line : ResponseLine) : List Char :=
  let raw := line.chars ++ ['\n']
  raw.set (raw.takeWhile fun c => c != '\r' && c != '\n').length nul

/-- The C string which starts at `line + offset`. -/
def ResponseLine.stringAt (line : ResponseLine) (offset : ℕ) : List Char :=
  (line.buffer.drop offset).takeWhile (· != nul)

/-- `isspace`. -/
def isSpace (c : Char) : Bool := c.toNat == 32 || 9 ≤ c.toNat && c.toNat ≤ 13

/-- The numeric conversions `%zu` and `%lf` of `sscanf`, which read a number at the start of
a text and leave the rest. -/
structure Conversions (D : Type) where
  size : List Char → Option (ℕ × List Char)
  real : List Char → Option (D × List Char)

/-- A literal part of a format. -/
def matchLiteral (literal text : List Char) : Option (List Char) :=
  if literal.isPrefixOf text then some (text.drop literal.length) else none

/-- `%63s`. -/
def scanToken (text : List Char) : Option (List Char) :=
  let word := (text.dropWhile isSpace).takeWhile fun c => !isSpace c
  if word = [] then none else some (word.take 63)

def statusPart : List Char := ['s', 't', 'a', 't', 'u', 's', ' ']
def messagePart : List Char := ['m', 'e', 's', 's', 'a', 'g', 'e', ' ']
def fieldKindWord : List Char := ['f', 'i', 'e', 'l', 'd', '_', 'k', 'i', 'n', 'd']
def countWord : List Char := ['c', 'o', 'u', 'n', 't']
def valueWord : List Char := ['v', 'a', 'l', 'u', 'e']

/-- `sscanf(line, "count %zu", &declared_count)`. -/
def scanCount (conversions : Conversions D) (text : List Char) : Option ℕ := do
  let rest ← matchLiteral countWord text
  let (count, _) ← conversions.size (rest.dropWhile isSpace)
  return count

/-- What differs between real and complex output: the initial element, the name of the kind,
and the conversions behind the index of a value. -/
structure ElementFormat (D V : Type) where
  zero : V
  kind : List Char
  scan : Conversions D → List Char → Option V

def realElements [CDouble D] : ElementFormat D D where
  zero := CDouble.zero
  kind := ['r', 'e', 'a', 'l']
  scan conversions text := do
    let (value, _) ← conversions.real (text.dropWhile isSpace)
    return value

def complexElements [CDouble D] : ElementFormat D (SimComplexDouble D) where
  zero := ⟨CDouble.zero, CDouble.zero⟩
  kind := ['c', 'o', 'm', 'p', 'l', 'e', 'x']
  scan conversions text := do
    let (re, rest) ← conversions.real (text.dropWhile isSpace)
    let (im, _) ← conversions.real (rest.dropWhile isSpace)
    return ⟨re, im⟩

/-- `sscanf` with the format of a value line. -/
def scanValue (conversions : Conversions D) (format : ElementFormat D V) (text : List Char) :
    Option (ℕ × V) := do
  let rest ← matchLiteral valueWord text
  let (index, rest) ← conversions.size (rest.dropWhile isSpace)
  let value ← format.scan conversions rest
  return (index, value)

/-- What the reader sees in a line: lines it skips, and those it acts on. -/
inductive ResponseEntry (V : Type) where
  | skipped
  | status (ok : Bool)
  | message (text : List Char)
  | fieldKind (matching : Bool)
  | count (declared : Option ℕ)
  | value (given : Option (ℕ × V))
deriving DecidableEq, Repr

/-- The tests at the head of the loop, in the order of the source. -/
def readEntry (conversions : Conversions D) (format : ElementFormat D V) (line : ResponseLine) :
    ResponseEntry V :=
  let text := line.stringAt 0
  if text = [] then .skipped
  else if statusPart.isPrefixOf text then .status (text.drop 7 == ['o', 'k'])
  else if messagePart.isPrefixOf text then .message (text.drop 8)
  else
    match scanToken text with
    | none => .skipped
    | some token =>
        if token = fieldKindWord then .fieldKind (line.stringAt 11 == format.kind)
        else if token = countWord then .count (scanCount conversions text)
        else if token = valueWord then .value (scanValue conversions format text)
        else .skipped

/-! ### The reader -/

/-- The locals of the reader. -/
structure ResponseState (V : Type) where
  sawStatus : Bool
  okStatus : Bool
  sawCount : Bool
  declaredCount : ℕ
  seenValues : ℕ
  temp : List V
  errorText : List Char

/-- `sim_neural_copy_text`. -/
def copyText (capacity : ℕ) (dst src : List Char) : List Char :=
  if capacity = 0 then dst else src.take (capacity - 1)

/-- One pass of the loop. The number of values seen is a `size_t`. -/
def readStep (capacity expectedCount : ℕ) (state : ResponseState V) :
    ResponseEntry V → Except SimError Unit × ResponseState V
  | .skipped => (.ok (), state)
  | .status ok => (.ok (), { state with sawStatus := true, okStatus := ok })
  | .message text => (.ok (), { state with errorText := copyText capacity state.errorText text })
  | .fieldKind matching =>
      if matching then (.ok (), state) else (.error .typeMismatch, state)
  | .count none => (.error .invalidState, state)
  | .count (some declared) =>
      (.ok (), { state with sawCount := true, declaredCount := declared })
  | .value none => (.error .invalidState, state)
  | .value (some (index, value)) =>
      if index ≥ expectedCount then (.error .invalidArgument, state)
      else
        (.ok (), { state with
          temp := state.temp.set index value
          seenValues := (state.seenValues + 1) % 2 ^ 64 })

def readEntries (capacity expectedCount : ℕ) :
    List (ResponseEntry V) → ResponseState V → Except SimError Unit × ResponseState V
  | [], state => (.ok (), state)
  | entry :: entries, state =>
      match readStep capacity expectedCount state entry with
      | (.error e, state) => (.error e, state)
      | (.ok (), state) => readEntries capacity expectedCount entries state

/-- `sim_neural_read_process_response`: the result, the data of the output field and the
text for errors. `tempMemory` and `layoutMemory` are the outcomes of the allocations for the
temporary field. -/
def simNeuralReadProcessResponse (conversions : Conversions D) (format : ElementFormat D V)
    (tempMemory layoutMemory : Bool) (capacity : ℕ) (lines : List ResponseLine) (output : List V)
    (errorText : List Char) : Except SimError Unit × List V × List Char :=
  let expectedCount := output.length
  if !tempMemory then (.error .outOfMemory, output, errorText)
  else if !layoutMemory then (.error .outOfMemory, output, errorText)
  else
    match readEntries capacity expectedCount (lines.map (readEntry conversions format))
        ⟨false, false, false, 0, 0, List.replicate expectedCount format.zero, errorText⟩ with
    | (.error e, state) => (.error e, output, state.errorText)
    | (.ok (), state) =>
        if !state.sawStatus || !state.okStatus then
          (.error .dependencyError, output, state.errorText)
        else if !state.sawCount || state.declaredCount != expectedCount ||
            state.seenValues != expectedCount then
          (.error .invalidState, output, state.errorText)
        else (.ok (), state.temp, state.errorText)

/-! ### What a response says -/

def ResponseEntry.status? : ResponseEntry V → Option Bool
  | .status ok => some ok
  | _ => none

def ResponseEntry.count? : ResponseEntry V → Option (Option ℕ)
  | .count declared => some declared
  | _ => none

def ResponseEntry.value? : ResponseEntry V → Option (ℕ × V)
  | .value given => given
  | _ => none

/-- The values given, in order. -/
def givenValues (entries : List (ResponseEntry V)) : List (ℕ × V) :=
  entries.filterMap ResponseEntry.value?

/-- The requirements on a response but for the coverage of the indices: the last status is
`ok`, the last count is `n`, kinds match, and values parse with an index below `n`. -/
structure Required (n : ℕ) (entries : List (ResponseEntry V)) : Prop where
  status : (entries.filterMap ResponseEntry.status?).getLast? = some true
  count : (entries.filterMap ResponseEntry.count?).getLast? = some (some n)
  kinds : ∀ matching, .fieldKind matching ∈ entries → matching = true
  values : ∀ given, .value given ∈ entries → ∃ index value, given = some (index, value) ∧ index < n

/-- Every index below `n` is given by exactly one value line. -/
def EachOnce (n : ℕ) (entries : List (ResponseEntry V)) : Prop :=
  ∀ index < n, ((givenValues entries).map Prod.fst).count index = 1

/-- The loop goes on behind an entry. -/
def ResponseEntry.Admissible (n : ℕ) : ResponseEntry V → Prop
  | .fieldKind matching => matching = true
  | .count declared => declared.isSome
  | .value given => ∃ index value, given = some (index, value) ∧ index < n
  | _ => True

/-- What the loop has read of the entries so far, when all of them were admissible. -/
structure ReadSoFar (n : ℕ) (zero : V) (entries : List (ResponseEntry V))
    (state : ResponseState V) : Prop where
  status : (entries.filterMap ResponseEntry.status?).getLast? =
    if state.sawStatus then some state.okStatus else none
  count : (entries.filterMap ResponseEntry.count?).getLast? =
    if state.sawCount then some (some state.declaredCount) else none
  seen : state.seenValues = (givenValues entries).length % 2 ^ 64
  temp : state.temp =
    (givenValues entries).foldl (fun temp given => temp.set given.1 given.2) (List.replicate n zero)

theorem ReadSoFar.nil (n : ℕ) (zero : V) (errorText : List Char) :
    ReadSoFar n zero [] ⟨false, false, false, 0, 0, List.replicate n zero, errorText⟩ :=
  ⟨rfl, rfl, rfl, rfl⟩

theorem filterMap_concat_none {α β : Type} {f : α → Option β} {a : α} (hNone : f a = none)
    (list : List α) : (list ++ [a]).filterMap f = list.filterMap f := by
  rw [List.filterMap_append, List.filterMap_cons_none hNone, List.filterMap_nil, List.append_nil]

theorem filterMap_concat_some {α β : Type} {f : α → Option β} {a : α} {b : β}
    (hSome : f a = some b) (list : List α) :
    (list ++ [a]).filterMap f = list.filterMap f ++ [b] := by
  rw [List.filterMap_append, List.filterMap_cons_some hSome, List.filterMap_nil]

/-- Entries which the reader only passes over. -/
theorem ReadSoFar.pass {n : ℕ} {zero : V} {entries : List (ResponseEntry V)}
    {state : ResponseState V} (hRead : ReadSoFar n zero entries state) {entry : ResponseEntry V}
    (hStatus : entry.status? = none) (hCount : entry.count? = none) (hValue : entry.value? = none)
    (errorText : List Char) :
    ReadSoFar n zero (entries ++ [entry]) { state with errorText := errorText } where
  status := by
    rw [filterMap_concat_none hStatus]
    exact hRead.status
  count := by
    rw [filterMap_concat_none hCount]
    exact hRead.count
  seen := by
    rw [givenValues, filterMap_concat_none hValue]
    exact hRead.seen
  temp := by
    rw [givenValues, filterMap_concat_none hValue]
    exact hRead.temp

theorem ReadSoFar.status_line {n : ℕ} {zero : V} {entries : List (ResponseEntry V)}
    {state : ResponseState V} (hRead : ReadSoFar n zero entries state) (ok : Bool) :
    ReadSoFar n zero (entries ++ [.status ok])
      { state with sawStatus := true, okStatus := ok } where
  status := by
    rw [filterMap_concat_some (a := .status ok) (f := ResponseEntry.status?) rfl,
      List.getLast?_concat]
    rfl
  count := by
    rw [filterMap_concat_none rfl]
    exact hRead.count
  seen := by
    rw [givenValues, filterMap_concat_none rfl]
    exact hRead.seen
  temp := by
    rw [givenValues, filterMap_concat_none rfl]
    exact hRead.temp

theorem ReadSoFar.count_line {n : ℕ} {zero : V} {entries : List (ResponseEntry V)}
    {state : ResponseState V} (hRead : ReadSoFar n zero entries state) (declared : ℕ) :
    ReadSoFar n zero (entries ++ [.count (some declared)])
      { state with sawCount := true, declaredCount := declared } where
  status := by
    rw [filterMap_concat_none rfl]
    exact hRead.status
  count := by
    rw [filterMap_concat_some (a := .count (some declared)) (f := ResponseEntry.count?) rfl,
      List.getLast?_concat]
    rfl
  seen := by
    rw [givenValues, filterMap_concat_none rfl]
    exact hRead.seen
  temp := by
    rw [givenValues, filterMap_concat_none rfl]
    exact hRead.temp

theorem ReadSoFar.value_line {n : ℕ} {zero : V} {entries : List (ResponseEntry V)}
    {state : ResponseState V} (hRead : ReadSoFar n zero entries state) (index : ℕ) (value : V) :
    ReadSoFar n zero (entries ++ [.value (some (index, value))])
      { state with
        temp := state.temp.set index value
        seenValues := (state.seenValues + 1) % 2 ^ 64 } where
  status := by
    rw [filterMap_concat_none rfl]
    exact hRead.status
  count := by
    rw [filterMap_concat_none rfl]
    exact hRead.count
  seen := by
    rw [givenValues, filterMap_concat_some (a := .value (some (index, value)))
      (f := ResponseEntry.value?) rfl, List.length_append,
      List.length_singleton, hRead.seen, Nat.mod_add_mod]
    rfl
  temp := by
    rw [givenValues, filterMap_concat_some (a := .value (some (index, value)))
      (f := ResponseEntry.value?) rfl, List.foldl_append,
      ← givenValues, ← hRead.temp]
    rfl

/-- One pass: an entry which is not admissible stops the loop, any other one is recorded. -/
theorem ReadSoFar.step {n : ℕ} {zero : V} {entries : List (ResponseEntry V)}
    {state : ResponseState V} (hRead : ReadSoFar n zero entries state) (capacity : ℕ)
    (entry : ResponseEntry V) :
    ((readStep capacity n state entry).1 = .ok () ↔ entry.Admissible n) ∧
      ((readStep capacity n state entry).1 = .ok () →
        ReadSoFar n zero (entries ++ [entry]) (readStep capacity n state entry).2) := by
  cases entry with
  | skipped => exact ⟨⟨fun _ => trivial, fun _ => rfl⟩, fun _ => hRead.pass rfl rfl rfl _⟩
  | status ok => exact ⟨⟨fun _ => trivial, fun _ => rfl⟩, fun _ => hRead.status_line ok⟩
  | message text => exact ⟨⟨fun _ => trivial, fun _ => rfl⟩, fun _ => hRead.pass rfl rfl rfl _⟩
  | fieldKind matching =>
      cases matching with
      | false =>
          exact ⟨⟨fun hOk => (nomatch hOk), fun hAll => (nomatch hAll)⟩, fun hOk => (nomatch hOk)⟩
      | true => exact ⟨⟨fun _ => rfl, fun _ => rfl⟩, fun _ => hRead.pass rfl rfl rfl _⟩
  | count declared =>
      cases declared with
      | none =>
          exact ⟨⟨fun hOk => (nomatch hOk), fun hAll => (nomatch hAll)⟩, fun hOk => (nomatch hOk)⟩
      | some declared => exact ⟨⟨fun _ => rfl, fun _ => rfl⟩, fun _ => hRead.count_line declared⟩
  | value given =>
      cases given with
      | none =>
          refine ⟨⟨fun hOk => (nomatch hOk), ?_⟩, fun hOk => (nomatch hOk)⟩
          rintro ⟨index, value, hGiven, -⟩
          cases hGiven
      | some given =>
          obtain ⟨index, value⟩ := given
          rw [readStep]
          by_cases hBeyond : index ≥ n
          · rw [if_pos hBeyond]
            refine ⟨⟨fun hOk => (nomatch hOk), ?_⟩, fun hOk => (nomatch hOk)⟩
            rintro ⟨index', value', hGiven, hBelow⟩
            cases hGiven
            omega
          · rw [if_neg hBeyond]
            exact ⟨⟨fun _ => ⟨index, value, rfl, by omega⟩, fun _ => rfl⟩,
              fun _ => hRead.value_line index value⟩

/-- The loop ends well exactly when all entries are admissible. -/
theorem ReadSoFar.entries {n : ℕ} {zero : V} {entries : List (ResponseEntry V)}
    {state : ResponseState V} (hRead : ReadSoFar n zero entries state) (capacity : ℕ)
    (later : List (ResponseEntry V)) :
    ((readEntries capacity n later state).1 = .ok () ↔ ∀ entry ∈ later, entry.Admissible n) ∧
      ((readEntries capacity n later state).1 = .ok () →
        ReadSoFar n zero (entries ++ later) (readEntries capacity n later state).2) := by
  induction later generalizing entries state with
  | nil => exact ⟨⟨fun _ _ hMem => (nomatch hMem), fun _ => rfl⟩, fun _ => by rwa [List.append_nil]⟩
  | cons entry later ih =>
      obtain ⟨hOk, hNext⟩ := hRead.step capacity entry
      rw [readEntries, List.forall_mem_cons, ← hOk]
      cases hStep : readStep capacity n state entry with
      | mk result next =>
      rw [hStep] at hNext
      cases result with
      | error e => exact ⟨⟨fun hEnd => (nomatch hEnd), fun hAll => (nomatch hAll.1)⟩, fun hEnd =>
        (nomatch hEnd)⟩
      | ok u =>
          obtain ⟨hRest, hEnd⟩ := ih (hNext rfl)
          refine ⟨⟨fun hLater => ⟨rfl, hRest.mp hLater⟩, fun hAll => hRest.mpr hAll.2⟩,
            fun hLater => ?_⟩
          have hDone := hEnd hLater
          rwa [List.append_assoc, List.singleton_append] at hDone

/-! ### Acceptance -/

theorem index_lt {n : ℕ} {entries : List (ResponseEntry V)} (hRequired : Required n entries)
    {index : ℕ} {value : V} (hMem : (index, value) ∈ givenValues entries) : index < n := by
  obtain ⟨entry, hEntry, hValue⟩ := List.mem_filterMap.mp hMem
  cases entry with
  | value given =>
      obtain ⟨index', value', hGiven, hBelow⟩ := hRequired.values given hEntry
      rw [ResponseEntry.value?, hGiven, Option.some.injEq, Prod.mk.injEq] at hValue
      exact hValue.1 ▸ hBelow
  | _ => cases hValue

/-- Indices below the bound which are each given once are all the numbers below it. -/
theorem EachOnce.perm {n : ℕ} {entries : List (ResponseEntry V)} (hRequired : Required n entries)
    (hOnce : EachOnce n entries) : ((givenValues entries).map Prod.fst).Perm (List.range n) := by
  rw [List.perm_iff_count]
  intro index
  by_cases hBelow : index < n
  · rw [hOnce index hBelow, List.count_eq_one_of_mem List.nodup_range (List.mem_range.mpr hBelow)]
  · rw [List.count_eq_zero_of_not_mem (fun hMem => hBelow (List.mem_range.mp hMem)),
      List.count_eq_zero_of_not_mem]
    intro hMem
    obtain ⟨given, hGiven, hIndex⟩ := List.mem_map.mp hMem
    exact hBelow (hIndex ▸ index_lt hRequired hGiven)

section Reader

variable {conversions : Conversions D} {format : ElementFormat D V} {capacity : ℕ}
  {lines : List ResponseLine} {output output' : List V} {errorText errorText' : List Char}
  {result : Except SimError Unit}

end Reader

/-- Without memory for the temporary field nothing is read. -/
theorem read_outOfMemory (conversions : Conversions D) (format : ElementFormat D V)
    {tempMemory layoutMemory : Bool} (hMemory : (tempMemory && layoutMemory) = false)
    (capacity : ℕ) (lines : List ResponseLine) (output : List V) (errorText : List Char) :
    simNeuralReadProcessResponse conversions format tempMemory layoutMemory capacity lines output
      errorText = (.error .outOfMemory, output, errorText) := by
  cases tempMemory <;> cases layoutMemory
  · rfl
  · rfl
  · rfl
  · cases hMemory

end Oakfield.Neural
