import Mathlib.Data.List.Basic
import Mathlib.Data.List.Infix

/-!
# The pieces of Go's standard library the code leans on

The autopilot parses annotations and YAML streams with `strings.Split`,
`strings.TrimSpace`, `strings.HasSuffix` and `strings.Contains`. Their Go
semantics differ from the nearest Lean functions in ways that matter here:
`TrimSpace` strips every Unicode white-space rune, not only the four ASCII ones
`String.trim` knows, and `Split` cuts at non-overlapping occurrences of a
multi-character separator, leftmost first. So they are written out here once,
over the characters of a string, by structural recursion — which also keeps
every definition evaluable by `decide`.

A Go string is a byte sequence and a Lean one a sequence of code points; every
string the modelled code reads is valid UTF-8, where the two agree. Where the
code measures or cuts in bytes, so does the model: `len(data)` against the YAML
size limit is `String.utf8ByteSize`, and the status table's `truncate` works on
`bytes`, whose runes `fmt` counts with `runeCount`.
-/

namespace Autopilot.Go

/-- `unicode.IsSpace`: the Latin-1 spaces and the rest of Unicode's
`White_Space` property. -/
def isSpace (c : Char) : Bool :=
  let n := c.toNat
  n == 0x09 || n == 0x0A || n == 0x0B || n == 0x0C || n == 0x0D || n == 0x20 ||
  n == 0x85 || n == 0xA0 || n == 0x1680 || (0x2000 ≤ n && n ≤ 0x200A) ||
  n == 0x2028 || n == 0x2029 || n == 0x202F || n == 0x205F || n == 0x3000

/-- `strings.TrimSpace`: leading and trailing white space removed. -/
def trimSpace (s : String) : String :=
  ⟨((s.toList.dropWhile isSpace).reverse.dropWhile isSpace).reverse⟩

/-- The scan behind `strings.Split`. `skip` counts the characters of a
separator just cut at that are still to be passed over, `cur` is the piece
read so far, reversed. At each position the separator is tried first, so the
cuts are the leftmost non-overlapping occurrences, as `strings.Index` finds
them. -/
def splitGo (sep : List Char) : Nat → List Char → List Char → List (List Char)
  | _, cur, [] => [cur.reverse]
  | skip + 1, cur, _ :: cs => splitGo sep skip cur cs
  | 0, cur, c :: cs =>
    if sep.isPrefixOf (c :: cs) then cur.reverse :: splitGo sep (sep.length - 1) [] cs
    else splitGo sep 0 (c :: cur) cs

/-- `strings.Split(s, sep)` for a non-empty separator, the only kind the code
passes: the pieces between the occurrences of `sep`, one more than there are
occurrences. -/
def split (s sep : String) : List String :=
  (splitGo sep.toList 0 [] s.toList).map String.mk

/-- `strings.Join(elems, sep)`: the pieces with `sep` between each two. -/
def join (sep : String) : List String → String
  | [] => ""
  | [d] => d
  | d :: ds => d ++ sep ++ join sep ds

/-- `strings.HasSuffix`. -/
def hasSuffix (s suffix : String) : Bool := suffix.toList.isSuffixOf s.toList

/-- `strings.HasPrefix`. -/
def hasPrefix (s pre : String) : Bool := pre.toList.isPrefixOf s.toList

/-- `strings.TrimPrefix`. -/
def trimPrefix (s pre : String) : String :=
  if hasPrefix s pre then ⟨s.toList.drop pre.length⟩ else s

/-- `strings.Contains`: `sub` occurs somewhere in `s`. -/
def contains (s sub : String) : Bool := s.toList.tails.any sub.toList.isPrefixOf

/-! ## How `split` cuts

The scan passes over the characters of a cut separator, passes over a
character where no separator starts, and cuts where one does. So a string
made by joining pieces with the separator comes apart into those pieces when
the separator cannot start early: inside a piece, or in a piece and run on
into the separator after it (`split_join`). -/

section

variable {sep : List Char}

theorem splitGo_skip (cur xs ys : List Char) :
    splitGo sep xs.length cur (xs ++ ys) = splitGo sep 0 cur ys := by
  induction xs with
  | nil => rfl
  | cons x xs ih => simpa only [List.length_cons, List.cons_append, splitGo] using ih

theorem splitGo_scan (cur xs ys : List Char)
    (h : ∀ i < xs.length, sep.isPrefixOf (xs.drop i ++ ys) = false) :
    splitGo sep 0 cur (xs ++ ys) = splitGo sep 0 (xs.reverse ++ cur) ys := by
  induction xs generalizing cur with
  | nil => rfl
  | cons x xs ih =>
    have h0 : sep.isPrefixOf (x :: (xs ++ ys)) = false := h 0 (Nat.succ_pos _)
    rw [List.cons_append, splitGo, if_neg (by simp [h0]),
      ih (x :: cur) fun i hi => h (i + 1) (Nat.succ_lt_succ hi)]
    simp

theorem splitGo_match (hsep : sep ≠ []) (cur ys : List Char) :
    splitGo sep 0 cur (sep ++ ys) = cur.reverse :: splitGo sep 0 [] ys := by
  obtain ⟨s, ss, rfl⟩ := List.exists_cons_of_ne_nil hsep
  rw [List.cons_append, splitGo, if_pos (by simp [List.isPrefixOf_iff_prefix])]
  simpa using @splitGo_skip (s :: ss) [] ss ys

theorem splitGo_end (cur xs : List Char) (h : ∀ i < xs.length, sep.isPrefixOf (xs.drop i) = false) :
    splitGo sep 0 cur xs = [(xs.reverse ++ cur).reverse] := by
  simpa [splitGo] using splitGo_scan cur xs [] (by simpa using h)

/-- Whether `l` is a prefix depends only on as many characters as `l` has. -/
theorem isPrefixOf_append_of_le {l y more : List Char} (h : l.length ≤ y.length) :
    l.isPrefixOf (y ++ more) = l.isPrefixOf y := by
  rw [Bool.eq_iff_iff, List.isPrefixOf_iff_prefix, List.isPrefixOf_iff_prefix]
  exact ⟨fun hp => List.prefix_of_prefix_length_le hp (List.prefix_append y more) h,
    fun hp => hp.trans (List.prefix_append y more)⟩

end

/-- `Contains` is the infix relation on the characters. -/
theorem contains_iff_infix (s sub : String) : contains s sub = true ↔ sub.toList <:+: s.toList := by
  simp [contains, List.infix_iff_prefix_suffix, List.mem_tails, and_comm]

theorem dropWhile_append_ne_nil {p : Char → Bool} {c : Char} (hc : p c = false) (l : List Char) :
    (l ++ [c]).dropWhile p ≠ [] := by
  induction l with
  | nil => simp [List.dropWhile_cons, hc]
  | cons a l ih =>
    rw [List.cons_append, List.dropWhile_cons]
    split
    · exact ih
    · simp

/-- A string that starts with a non-space character does not trim to nothing. -/
theorem trimSpace_ne_empty {s : String} {c : Char} {rest : List Char} (hs : s.toList = c :: rest)
    (hc : isSpace c = false) : trimSpace s ≠ "" := by
  unfold trimSpace
  rw [hs, List.dropWhile_cons_of_neg (by simp [hc]), List.reverse_cons]
  intro h
  have := congrArg String.data h
  simp only [List.reverse_eq_nil_iff] at this
  exact dropWhile_append_ne_nil hc _ this

/-- The pieces of a joined string come back when `sep` starts neither inside a
piece nor in a piece running on into the separator. -/
theorem split_join (sep : String) (hsep : sep ≠ "") (d : String) (ds : List String)
    (hrun : ∀ x ∈ d :: ds, ∀ i < x.length,
      sep.toList.isPrefixOf (x.toList.drop i ++ sep.toList) = false)
    (hin : ∀ x ∈ d :: ds, ∀ i < x.length, sep.toList.isPrefixOf (x.toList.drop i) = false) :
    split (join sep (d :: ds)) sep = d :: ds := by
  have hne : sep.data ≠ [] := fun h => hsep (String.ext h)
  suffices h : splitGo sep.data 0 [] (join sep (d :: ds)).data = (d :: ds).map String.data by
    simp only [split, String.toList, h, List.map_map]
    exact List.map_id _
  induction ds generalizing d with
  | nil => simpa [join] using splitGo_end [] d.data (hin d (List.mem_singleton_self d))
  | cons d' ds ih =>
    have hd := hrun d (List.mem_cons_self _ _)
    have hscan : ∀ i < d.data.length, sep.data.isPrefixOf
        (d.data.drop i ++ (sep.data ++ (join sep (d' :: ds)).data)) = false :=
      fun i hi => by
        rw [← List.append_assoc, isPrefixOf_append_of_le (by simp)]
        exact hd i hi
    simp only [join, String.data_append, List.append_assoc]
    rw [splitGo_scan [] _ _ hscan, List.append_nil, splitGo_match hne,
      ih d' (fun x hx => hrun x (List.mem_cons_of_mem _ hx))
        (fun x hx => hin x (List.mem_cons_of_mem _ hx))]
    simp

/-! ## Pieces are substrings

What `split` and `trimSpace` return is a run of the characters they were
given, so it takes no more bytes: a limit checked on a whole stream holds for
each of its trimmed pieces. -/

/-- Every piece the scan returns is a run of the characters it was given; while
a separator is passed over, the piece read so far is empty. -/
theorem infix_of_mem_splitGo (sep : List Char) :
    ∀ (skip : Nat) (cur cs : List Char), (skip ≠ 0 → cur = []) →
      ∀ p ∈ splitGo sep skip cur cs, p <:+: cur.reverse ++ cs
  | _, cur, [], _, p, hp => by
    rw [splitGo, List.mem_singleton] at hp
    subst hp; simp
  | skip + 1, cur, c :: cs, hcur, p, hp => by
    obtain rfl := hcur (Nat.succ_ne_zero _)
    exact (infix_of_mem_splitGo sep skip [] cs (fun _ => rfl) p hp).trans
      (List.suffix_cons c cs).isInfix
  | 0, cur, c :: cs, _, p, hp => by
    rw [splitGo] at hp
    split at hp
    · rcases List.mem_cons.mp hp with rfl | hp
      · exact (List.prefix_append _ _).isInfix
      · exact (infix_of_mem_splitGo sep _ [] cs (fun _ => rfl) p hp).trans
          ((List.suffix_cons c cs).trans (List.suffix_append _ _)).isInfix
    · simpa using infix_of_mem_splitGo sep 0 (c :: cur) cs (fun h => absurd rfl h) p hp

/-- Every piece of `split` is a substring of the string split. -/
theorem infix_of_mem_split {s sep d : String} (h : d ∈ split s sep) : d.toList <:+: s.toList := by
  obtain ⟨p, hp, rfl⟩ := List.mem_map.mp h
  simpa using infix_of_mem_splitGo sep.toList 0 [] s.toList (fun h => absurd rfl h) p hp

/-- `TrimSpace` returns a substring. -/
theorem trimSpace_infix_self (s : String) : (trimSpace s).toList <:+: s.toList := by
  have hpre : ∀ l : List Char, ((l.reverse.dropWhile isSpace).reverse) <+: l := fun l =>
    List.reverse_suffix.mp (by simpa using List.dropWhile_suffix (l := l.reverse) isSpace)
  exact (hpre _).isInfix.trans (List.dropWhile_suffix isSpace).isInfix

theorem utf8ByteSize_go_append (a b : List Char) :
    String.utf8ByteSize.go (a ++ b) = String.utf8ByteSize.go a + String.utf8ByteSize.go b := by
  induction a with
  | nil => simp [String.utf8ByteSize.go]
  | cons c a ih => rw [List.cons_append, String.utf8ByteSize.go, String.utf8ByteSize.go, ih]; omega

/-- A substring takes no more bytes than the string. -/
theorem utf8ByteSize_le_of_infix_toList {a b : String} (h : a.toList <:+: b.toList) :
    a.utf8ByteSize ≤ b.utf8ByteSize := by
  obtain ⟨s, t, hst⟩ := h
  obtain ⟨a⟩ := a
  obtain ⟨b⟩ := b
  simp only [String.toList] at hst
  subst hst
  simp only [String.utf8ByteSize, utf8ByteSize_go_append]
  omega

/-- A Go string's bytes: the UTF-8 encoding of its runes. -/
def bytes (s : String) : List UInt8 := s.toList.flatMap String.utf8EncodeChar

/-- A row of Go's `first` table for a byte that starts a multi-byte rune: the
rune's size and the range its second byte must lie in (`acceptRanges`). Every
row is of a rune of two bytes or more, whose second byte is a continuation
byte. -/
structure LeadByte where
  size : Nat
  lo : Nat
  hi : Nat
  two_le_size : 2 ≤ size
  continuation_lo : 0x80 ≤ lo

/-- `first`, for the bytes that start a multi-byte rune; ASCII bytes and bytes
that start no rune have no row. -/
def first (c : UInt8) : Option LeadByte :=
  let n := c.toNat
  if n < 0xC2 then none
  else if n < 0xE0 then some ⟨2, 0x80, 0xBF, by decide, by decide⟩
  else if n = 0xE0 then some ⟨3, 0xA0, 0xBF, by decide, by decide⟩
  else if n < 0xED then some ⟨3, 0x80, 0xBF, by decide, by decide⟩
  else if n = 0xED then some ⟨3, 0x80, 0x9F, by decide, by decide⟩
  else if n < 0xF0 then some ⟨3, 0x80, 0xBF, by decide, by decide⟩
  else if n = 0xF0 then some ⟨4, 0x90, 0xBF, by decide, by decide⟩
  else if n < 0xF4 then some ⟨4, 0x80, 0xBF, by decide, by decide⟩
  else if n = 0xF4 then some ⟨4, 0x80, 0x8F, by decide, by decide⟩
  else none

/-- The bytes after a lead byte continue its rune: the first in `[lo, hi]`, the
others in `[0x80, 0xBF]` (`locb`, `hicb`). -/
def continues (lo hi : Nat) : List UInt8 → Bool
  | [] => true
  | c :: cs => lo ≤ c.toNat && c.toNat ≤ hi && continues 0x80 0xBF cs

/-- How far `RuneCountInString` steps at byte `c` followed by `rest`: the
rune's size, or one for an ASCII byte, a byte that starts no rune, and a
sequence cut short (`i+size > ns`) or broken. -/
def runeSize (c : UInt8) (rest : List UInt8) : Nat :=
  match first c with
  | none => 1
  | some l =>
    if l.size - 1 ≤ rest.length && continues l.lo l.hi (rest.take (l.size - 1)) then l.size
    else 1

/-- The loop of `utf8.RuneCountInString`; `skip` counts the bytes of the rune
just counted that are still to be stepped over. -/
def runeCountGo : Nat → List UInt8 → Nat
  | _, [] => 0
  | skip + 1, _ :: cs => runeCountGo skip cs
  | 0, c :: cs => runeCountGo (runeSize c cs - 1) cs + 1

/-- `utf8.RuneCountInString`. -/
def runeCount (s : List UInt8) : Nat := runeCountGo 0 s

/-- The bytes of `b`, if any, start with an ASCII byte, which no rune runs on
into. -/
def AsciiHead (b : List UInt8) : Prop := ∀ x ∈ b.head?, x.toNat < 0x80

theorem runeCountGo_eq (skip : Nat) (s : List UInt8) :
    runeCountGo skip s = runeCount (s.drop skip) := by
  induction s generalizing skip with
  | nil => cases skip <;> rfl
  | cons c cs ih => cases skip <;> simp [runeCountGo, runeCount, ih]

theorem runeCount_cons (c : UInt8) (rest : List UInt8) :
    runeCount (c :: rest) = runeCount (rest.drop (runeSize c rest - 1)) + 1 := by
  rw [runeCount, runeCountGo, runeCountGo_eq]

theorem runeSize_le (c : UInt8) (rest : List UInt8) : runeSize c rest - 1 ≤ rest.length := by
  unfold runeSize
  split
  · exact Nat.zero_le _
  · split
    · next h => simp only [Bool.and_eq_true, decide_eq_true_eq] at h; exact h.1
    · exact Nat.zero_le _

/-- A sequence that reaches an ASCII byte is broken. -/
theorem continues_append_ascii {lo hi : Nat} (hlo : 0x80 ≤ lo) (xs : List UInt8) {y : UInt8}
    (hy : y.toNat < 0x80) (ys : List UInt8) : continues lo hi (xs ++ y :: ys) = false := by
  induction xs generalizing lo hi with
  | nil => simp [continues]; omega
  | cons x xs ih => simp [continues, ih (le_refl 0x80)]

/-- Before an ASCII byte, a rune steps the same with or without what follows. -/
theorem runeSize_append {b : List UInt8} (hb : AsciiHead b) (c : UInt8) (a : List UInt8) :
    runeSize c (a ++ b) = runeSize c a := by
  unfold runeSize
  split
  · rfl
  · next l _ =>
    by_cases hle : l.size - 1 ≤ a.length
    · rw [List.take_append_of_le_length hle, List.length_append]
      simp only [hle, Nat.le_add_right_of_le]
    · rcases b with _ | ⟨y, b⟩
      · rw [List.append_nil]
      have hy : y.toNat < 0x80 := hb y rfl
      obtain ⟨k, hk⟩ : ∃ k, l.size - 1 - a.length = k + 1 := ⟨l.size - 1 - a.length - 1, by omega⟩
      have htake : (a ++ y :: b).take (l.size - 1) = a ++ y :: b.take k := by
        rw [List.take_append_eq_append_take, List.take_of_length_le (by omega), hk,
          List.take_succ_cons]
      rw [htake, continues_append_ascii l.continuation_lo a hy]
      simp [hle]

/-- Counting is additive before an ASCII byte. -/
theorem runeCount_append {b : List UInt8} (hb : AsciiHead b) :
    ∀ a : List UInt8, runeCount (a ++ b) = runeCount a + runeCount b
  | [] => by simp [runeCount, runeCountGo]
  | c :: a => by
    have hk := runeSize_le c a
    rw [List.cons_append, runeCount_cons, runeCount_cons, runeSize_append hb,
      List.drop_append_of_le_length hk, runeCount_append hb (a.drop (runeSize c a - 1))]
    omega
termination_by a => a.length
decreasing_by simp only [List.length_drop, List.length_cons]; omega

theorem runeCount_le_length : ∀ s : List UInt8, runeCount s ≤ s.length
  | [] => le_refl 0
  | c :: s => by
    have := runeCount_le_length (s.drop (runeSize c s - 1))
    rw [runeCount_cons, List.length_cons]
    rw [List.length_drop] at this
    omega
termination_by s => s.length
decreasing_by simp only [List.length_drop, List.length_cons]; omega

theorem runeCount_space_cons (rest : List UInt8) : runeCount (0x20 :: rest) = runeCount rest + 1 :=
  runeCount_cons 0x20 rest

theorem runeCount_replicate_space (n : Nat) : runeCount (List.replicate n 0x20) = n := by
  induction n with
  | zero => rfl
  | succ n ih => rw [List.replicate_succ, runeCount_space_cons, ih]

theorem asciiHead_space (rest : List UInt8) : AsciiHead (0x20 :: rest) := by
  rintro x ⟨⟩; decide

theorem asciiHead_replicate_space (n : Nat) : AsciiHead (List.replicate n 0x20) := by
  cases n
  · rintro x ⟨⟩
  · exact asciiHead_space _

example : runeCount (bytes "héllo") = 5 := by decide
example : runeCount ((bytes "héllo").take 2) = 2 := by decide

example : split "a, b,,c" "," = ["a", " b", "", "c"] := by decide
example : split "x\n---\ny" "\n---\n" = ["x", "y"] := by decide
example : trimSpace "  Kind/Name\t" = "Kind/Name" := by decide

end Autopilot.Go
