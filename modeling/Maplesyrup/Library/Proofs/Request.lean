/-
What does a call ask for?

`set_match_info` accepts two architectures and six implementations by
name; the rest of the request is zeroed memory but for one key, copied
in by its caller. Of the three keys the search compares, the two that
were not set are 0 or empty, and no entry's are: so one key selects.

A supplied value goes through a signed parser that saturates, and the
range error is looked for in an `errno` that nobody reset. What arrives
is the value below 2^63 and `~0` above it, and `~0` for everything once
`errno` is ERANGE.
-/
import Maplesyrup.Decode.Proofs.Join
import Maplesyrup.Library.Proofs.Stack

namespace Maplesyrup

open Base

-- ======================================================= what is accepted

/-- The architectures by name. -/
theorem matchArchitecture_iff {arch : String} {id : U32} :
    matchArchitecture arch = some id
      ↔ arch = "armv7a" ∧ id = archArmv7a
        ∨ arch = "armv8a" ∧ id = archArmv8a := by
  have h7 : strncmp arch "armv7a" parseMaxArchitecture = true
      ↔ arch = "armv7a" := strncmp_of_lt (by decide)
  have h8 : strncmp arch "armv8a" parseMaxArchitecture = true
      ↔ arch = "armv8a" := strncmp_of_lt (by decide)
  unfold matchArchitecture
  simp only [h7, h8]
  by_cases harch7 : arch = "armv7a"
  · simp [harch7, eq_comm]
  · by_cases harch8 : arch = "armv8a"
    · simp [harch8, eq_comm]
    · simp [harch7, harch8]

/-- The implementations by name, with the ids they get. -/
def implementations : List (String × U32) := [
  ("cortex-a7", implCortexA7),
  ("cortex-a9", implCortexA7),
  ("cortex-a15", implCortexA15),
  ("cortex-a53", implCortexA53),
  ("cortex-a57", implCortexA57),
  ("all", implAll)]

theorem matchImplementation_iff {impl : String} {id : U32} :
    matchImplementation impl = some id ↔ (impl, id) ∈ implementations := by
  have hname : ∀ name : String, name.length < parseMaxImplementation →
      (strncmp impl name parseMaxImplementation = true ↔ impl = name) :=
    fun name hlen => strncmp_of_lt hlen
  unfold matchImplementation
  simp only [hname _ (show "cortex-a7".length < _ by decide),
    hname _ (show "cortex-a9".length < _ by decide),
    hname _ (show "cortex-a15".length < _ by decide),
    hname _ (show "cortex-a53".length < _ by decide),
    hname _ (show "cortex-a57".length < _ by decide),
    hname _ (show "all".length < _ by decide)]
  unfold implementations
  split_ifs with h7 h9 h15 h53 h57 hall
  · simp [h7, eq_comm]
  · simp [h9, eq_comm]
  · simp [h15, eq_comm]
  · simp [h53, eq_comm]
  · simp [h57, eq_comm]
  · simp [hall, eq_comm]
  · simp [h7, h9, h15, h53, h57, hall]

/-- The value a request carries. -/
def carriedValue (errnoRange : Bool) : Option String → U64
  | none => 0
  | some s =>
      if (strtollHex s).2 || errnoRange then .allOnes 64
      else .ofInt 64 (strtollHex s).1

/-- What `set_match_info` makes of what it accepts. -/
theorem setMatchInfo_some {errnoRange : Bool} {arch impl : Option String}
    {cpu : Int} {pl noparse : U32} {calcValue : Option String}
    {info : MatchInfo}
    (h : setMatchInfo errnoRange arch impl cpu pl noparse calcValue
      = some info) :
    ∃ a i architecture implementation,
      arch = some a ∧ impl = some i
        ∧ matchArchitecture a = some architecture
        ∧ matchImplementation i = some implementation
        ∧ info = { pl := pl
                   cpu := .ofInt 32 cpu
                   noparse := noparse
                   architecture := architecture
                   implementation := implementation
                   calcValid := if calcValue.isSome then 1 else 0
                   calcValue := carriedValue errnoRange calcValue } := by
  unfold setMatchInfo at h
  obtain ⟨a, ha, h⟩ := Option.bind_eq_some_iff.1 h
  obtain ⟨i, hi, h⟩ := Option.bind_eq_some_iff.1 h
  obtain ⟨architecture, harch, h⟩ := Option.bind_eq_some_iff.1 h
  obtain ⟨implementation, himpl, h⟩ := Option.bind_eq_some_iff.1 h
  refine ⟨a, i, architecture, implementation, ha, hi, harch, himpl, ?_⟩
  cases calcValue with
  | none => exact (Option.some.inj h).symm
  | some s => exact (Option.some.inj h).symm

-- ======================================================= the value's text

/-- The text spells the number in hexadecimal: digits of either case,
leading zeros among them, behind an `0x` or without. -/
def Spells (s : String) (n : Nat) : Prop :=
  ∃ start ∈ [[], ['0', 'x'], ['0', 'X']],
    ∃ (digits : List Char) (ds : List Nat),
    s.toList = start ++ digits ∧ digits ≠ []
      ∧ digits.map hexDigit = ds.map some
      ∧ Nat.ofDigits 16 ds.reverse = n

/-- The characters that are digits. -/
theorem hexDigit_range {c : Char} {d : Nat} (h : hexDigit c = some d) :
    (48 ≤ c.toNat ∧ c.toNat ≤ 57) ∨ (65 ≤ c.toNat ∧ c.toNat ≤ 70)
      ∨ (97 ≤ c.toNat ∧ c.toNat ≤ 102) := by
  unfold hexDigit at h
  split at h
  · rename_i hdec
    exact Or.inl hdec
  · split at h
    · rename_i hupper
      exact Or.inr (Or.inl hupper)
    · split at h
      · rename_i hlower
        exact Or.inr (Or.inr hlower)
      · cases h

/-- Digits are read to their end, each adding its place. -/
theorem hexNumber_digits {digits : List Char} {ds : List Nat}
    (h : digits.map hexDigit = ds.map some) (n : Nat) :
    hexNumber digits n
      = n * 16 ^ ds.length + Nat.ofDigits 16 ds.reverse := by
  induction digits generalizing ds n with
  | nil =>
      obtain rfl : ds = [] := by simpa using h.symm
      simp [hexNumber]
  | cons c cs ih =>
      cases ds with
      | nil => simp at h
      | cons d ds =>
          rw [List.map_cons, List.map_cons, List.cons.injEq] at h
          obtain ⟨hd, hds⟩ := h
          have hplace : (16 * n + d) * 16 ^ ds.length
              = n * 16 ^ (ds.length + 1) + 16 ^ ds.length * d := by
            ring
          rw [hexNumber, hd]
          show hexNumber cs (16 * n + d) = _
          rw [ih hds, List.reverse_cons, Nat.ofDigits_append,
            Nat.ofDigits_singleton, List.length_reverse,
            List.length_cons, hplace]
          omega

/-- Every digit of a spelling is one. -/
theorem spelled_digit {digits : List Char} {ds : List Nat}
    (h : digits.map hexDigit = ds.map some) {c : Char}
    (hc : c ∈ digits) : ∃ d, hexDigit c = some d := by
  have hmem : hexDigit c ∈ ds.map some := by
    rw [← h]
    exact List.mem_map_of_mem hc
  obtain ⟨d, -, hd⟩ := List.mem_map.1 hmem
  exact ⟨d, hd.symm⟩

/-- An `0x` is skipped, digits are left alone. -/
theorem skipHexPrefix_spelled {start digits : List Char} {ds : List Nat}
    (hstart : start ∈ [[], ['0', 'x'], ['0', 'X']])
    (hne : digits ≠ []) (h : digits.map hexDigit = ds.map some) :
    skipHexPrefix (start ++ digits) = digits := by
  cases digits with
  | nil => exact absurd rfl hne
  | cons c cs =>
      have hc : (hexDigit c).isSome = true :=
        Option.isSome_iff_exists.2 (spelled_digit h (List.mem_cons_self ..))
      simp only [List.mem_cons, List.not_mem_nil, or_false] at hstart
      rcases hstart with rfl | rfl | rfl
      · -- the second character is a digit, not the letter x
        match cs, h with
        | [], _ => rfl
        | [_], _ => rfl
        | x :: d :: cs, h =>
            obtain ⟨e, he⟩ := spelled_digit h (c := x) (by simp)
            have hx := hexDigit_range he
            show (if _ then _ else _) = _
            rw [if_neg (by omega)]
      · exact if_pos ⟨rfl, Or.inl rfl, hc⟩
      · exact if_pos ⟨rfl, Or.inr rfl, hc⟩

/-- A spelled number is converted below 2^63 and saturates from there
on. -/
theorem strtollHex_spelled {s : String} {n : Nat} (hs : Spells s n) :
    strtollHex s
      = if n < 2 ^ 63 then ((n : Int), false) else (llongMax, true) := by
  obtain ⟨start, hstart, digits, ds, htext, hne, hds, rfl⟩ := hs
  have hskip := skipHexPrefix_spelled hstart hne hds
  have hnumber : hexNumber digits 0 = Nat.ofDigits 16 ds.reverse := by
    rw [hexNumber_digits hds, Nat.zero_mul, Nat.zero_add]
  -- the first character is neither a blank nor a sign
  obtain ⟨c, cs, htext', hc⟩ : ∃ c cs, start ++ digits = c :: cs
      ∧ ((48 ≤ c.toNat ∧ c.toNat ≤ 57) ∨ (65 ≤ c.toNat ∧ c.toNat ≤ 70)
        ∨ (97 ≤ c.toNat ∧ c.toNat ≤ 102)) := by
    simp only [List.mem_cons, List.not_mem_nil, or_false] at hstart
    rcases hstart with rfl | rfl | rfl
    · cases digits with
      | nil => exact absurd rfl hne
      | cons c cs =>
          obtain ⟨d, hd⟩ := spelled_digit hds (List.mem_cons_self ..)
          exact ⟨c, cs, rfl, hexDigit_range hd⟩
    · exact ⟨_, _, rfl, Or.inl (by decide)⟩
    · exact ⟨_, _, rfl, Or.inl (by decide)⟩
  have hblank : isspace c = false := by
    unfold isspace
    simp only [Bool.or_eq_false_iff, beq_eq_false_iff_ne,
      decide_eq_false_iff_not]
    omega
  have hminus : ¬ c.toNat = 45 := by omega
  have hplus : ¬ c.toNat = 43 := by omega
  unfold strtollHex
  rw [htext, htext', List.dropWhile_cons_of_neg (by simp [hblank])]
  simp only [hminus, hplus, ↓reduceIte, Bool.false_eq_true]
  rw [← htext', hskip, hnumber]
  unfold llongMax llongMin
  by_cases hlt : Nat.ofDigits 16 ds.reverse < 2 ^ 63
  · rw [if_neg (by omega), if_neg (by omega), if_pos hlt]
  · rw [if_pos (by omega), if_neg hlt]

-- ============================================================= the value

/-- A supplied value is taken exactly when it is `~0`, or below 2^63 with
no range error left in `errno`. -/
theorem value_taken_iff {s : String} {v : U64} (hs : Spells s v.toNat)
    {errnoRange : Bool} {arch impl : Option String} {cpu : Int}
    {pl noparse : U32} {info : MatchInfo}
    (h : setMatchInfo errnoRange arch impl cpu pl noparse (some s)
      = some info) :
    (info.calcValid = 1 ∧ info.calcValue = v)
      ↔ v = .allOnes 64 ∨ (v.toNat < 2 ^ 63 ∧ errnoRange = false) := by
  obtain ⟨_, _, _, _, -, -, -, -, rfl⟩ := setMatchInfo_some h
  have hread := strtollHex_spelled hs
  show (((1 : U32) = 1) ∧ (if (strtollHex s).2 || errnoRange then
    BitVec.allOnes 64 else .ofInt 64 (strtollHex s).1) = v) ↔ _
  rw [and_iff_right rfl, hread]
  by_cases hlt : v.toNat < 2 ^ 63
  · rw [if_pos hlt]
    cases errnoRange with
    | true =>
        rw [if_pos (by rfl)]
        simp [eq_comm]
    | false =>
        have hback : BitVec.ofInt 64 (v.toNat : Int) = v := by
          rw [BitVec.ofInt_natCast, BitVec.ofNat_toNat, BitVec.setWidth_eq]
        rw [if_neg (by simp)]
        exact iff_of_true hback (Or.inr ⟨hlt, rfl⟩)
  · rw [if_neg hlt, if_pos (by rfl), or_iff_left fun h => hlt h.1]
    exact eq_comm

/-- A register's sign bit alone. -/
def topBit : String := "8000000000000000"

theorem topBit_spelled :
    Spells topBit (BitVec.ofNat 64 (2 ^ 63)).toNat :=
  ⟨[], by simp, topBit.toList, 8 :: List.replicate 15 0, rfl,
    by decide +kernel, by decide +kernel, by decide +kernel⟩

/-- It arrives as all bits. -/
theorem value_taken_fails :
    ¬ ∀ (s : String) (v : U64) (errnoRange : Bool) (info : MatchInfo),
        Spells s v.toNat →
        setMatchInfo errnoRange (some "armv8a") (some "all") (-1)
          preferredPl 0 (some s) = some info →
        info.calcValid = 1 ∧ info.calcValue = v := by
  intro h
  obtain ⟨info, hset, hvalue⟩ : ∃ info, setMatchInfo false
      (some "armv8a") (some "all") (-1) preferredPl 0 (some topBit)
        = some info ∧ info.calcValue = .allOnes 64 :=
    ⟨{ pl := preferredPl
       cpu := .allOnes 32
       architecture := archArmv8a
       implementation := implAll
       calcValid := 1
       calcValue := .allOnes 64 }, by decide +kernel, rfl⟩
  have htaken := (h topBit (.ofNat 64 (2 ^ 63)) false info topBit_spelled
    hset).2
  rw [hvalue] at htaken
  exact absurd htaken (by decide)

/-- A request of all implementations that carries 31. -/
def smallValue : MatchInfo :=
  { pl := preferredPl
    cpu := .allOnes 32
    architecture := archArmv7a
    implementation := implAll
    calcValid := 1
    calcValue := 0x1F }

theorem value_taken_iff_small :
    (smallValue.calcValid = 1 ∧ smallValue.calcValue = 0x1F)
      ↔ (0x1F : U64) = .allOnes 64
        ∨ ((0x1F : U64).toNat < 2 ^ 63 ∧ false = false) :=
  @value_taken_iff "0x01f" 0x1F
    ⟨['0', 'x'], by simp, ['0', '1', 'f'], [0, 1, 15], rfl, by decide,
      by decide, by decide⟩
    false (some "armv7a") (some "all") (-1) preferredPl 0 smallValue
    (by decide +kernel)

-- ========================================================= the selection

/-- A heap table the search can rely on: no entry has the zeroed keys,
and the copies and comparisons reach to the ends of its names. -/
structure Searchable (heap : List BitfieldInfoHeap) : Prop where
  uid : ∀ h ∈ heap, h.info.uid ≠ 0
  name : ∀ h ∈ heap, h.registerNameExpanded ≠ ""
  nameLength : ∀ h ∈ heap, h.registerNameExpanded.length < 31
  group : ∀ h ∈ heap, h.info.functionalGroup ≠ ""
  groupLength : ∀ h ∈ heap, h.info.functionalGroup.length < 63

/-- The whole key is the entry's. -/
def FindKey.names (key : FindKey) (h : BitfieldInfoHeap) : Bool :=
  match key with
  | .bitfield uid => decide (h.info.uid = uid)
  | .register regname _ =>
      decide (regname = some h.registerNameExpanded)
  | .group groupname => decide (groupname = some h.info.functionalGroup)

/-- The key of nothing. -/
def FindKey.Empty : FindKey → Prop
  | .bitfield uid => uid = 0
  | .register regname _ => regname = some ""
  | .group groupname => groupname = some ""

/-- The implementations of an architecture. -/
def implementationsOf (arch : U32) : List U32 :=
  if arch = archArmv7a then [implCortexA7, implCortexA9, implCortexA15]
  else if arch = archArmv8a then [implCortexA53, implCortexA57]
  else []

/-- The entry's table is asked for. -/
def MatchInfo.admits (info : MatchInfo) (h : BitfieldInfoHeap) : Bool :=
  match h.tableType with
  | .mm => true
  | .arch => decide (mscodePartnumber h.info.uid = info.architecture)
  | .impl =>
      decide (mscodePartnumber h.info.uid
          ∈ implementationsOf info.architecture
        ∧ (mscodePartnumber h.info.uid = info.implementation
          ∨ info.implementation = implAll))

/-- `get_arch_from_impl` knows the implementations of an architecture, and
its -1 is no architecture. -/
theorem getArchFromImpl_iff {arch impl : U32}
    (harch : arch = archArmv7a ∨ arch = archArmv8a) :
    arch = getArchFromImpl impl ↔ impl ∈ implementationsOf arch := by
  unfold getArchFromImpl
  rcases harch with rfl | rfl
  · split_ifs with h15 h7 h9 h53 h57
    · exact iff_of_true rfl (by simp [implementationsOf, h15])
    · exact iff_of_true rfl (by simp [implementationsOf, h7])
    · exact iff_of_true rfl (by simp [implementationsOf, h9])
    · exact iff_of_false (by decide) (by rw [h53]; decide)
    · exact iff_of_false (by decide) (by rw [h57]; decide)
    · exact iff_of_false (by decide)
        (by simp [implementationsOf, h15, h7, h9])
  · split_ifs with h15 h7 h9 h53 h57
    · exact iff_of_false (by decide) (by rw [h15]; decide)
    · exact iff_of_false (by decide) (by rw [h7]; decide)
    · exact iff_of_false (by decide) (by rw [h9]; decide)
    · exact iff_of_true rfl (by rw [h53]; decide)
    · exact iff_of_true rfl (by rw [h57]; decide)
    · refine iff_of_false (by decide) ?_
      rw [implementationsOf, if_neg (by decide), if_pos rfl]
      simp [h53, h57]

theorem matchesTable_eq {info : MatchInfo}
    (harch : info.architecture = archArmv7a
      ∨ info.architecture = archArmv8a) (h : BitfieldInfoHeap) :
    info.matchesTable h = info.admits h := by
  unfold MatchInfo.matchesTable MatchInfo.admits
  cases h.tableType with
  | mm => rfl
  | arch => rfl
  | impl =>
      rw [Bool.eq_iff_iff, decide_eq_true_eq, Bool.and_eq_true,
        Bool.or_eq_true, beq_iff_eq, beq_iff_eq, beq_iff_eq,
        getArchFromImpl_iff harch]
      exact and_congr_right fun _ =>
        or_comm.trans (or_congr_left eq_comm)

theorem FindKey.set_ids {key : FindKey} {info info' : MatchInfo}
    (h : key.set info = .ok info') :
    info'.architecture = info.architecture
      ∧ info'.implementation = info.implementation := by
  cases key with
  | bitfield uid =>
      obtain rfl := Except.ok.inj h
      exact ⟨rfl, rfl⟩
  | register regname calcValue =>
      obtain ⟨_, -, h⟩ := bind_eq_ok.1 h
      obtain rfl := Except.ok.inj h
      exact ⟨rfl, rfl⟩
  | group groupname =>
      obtain ⟨_, -, h⟩ := bind_eq_ok.1 h
      obtain rfl := Except.ok.inj h
      exact ⟨rfl, rfl⟩

/-- The keys of a request: one is set, the other two are zeroed. -/
theorem matchesKey_eq {heap : List BitfieldInfoHeap}
    (hheap : Searchable heap) {c : FindCall} {info : MatchInfo}
    (hinfo : c.request = some info) {h : BitfieldInfoHeap}
    (hh : h ∈ heap) : info.matchesKey h = c.key.names h := by
  obtain ⟨base, hset, hkey⟩ := FindCall.request_some hinfo
  obtain ⟨_, _, _, _, -, -, -, -, rfl⟩ := setMatchInfo_some hset
  have huid : (h.info.uid == 0) = false :=
    beq_eq_false_iff_ne.2 (hheap.uid h hh)
  have hname : strncmp h.registerNameExpanded "" (parseMaxRegister - 1)
      = false :=
    Bool.eq_false_iff.2 fun hcon =>
      hheap.name h hh ((strncmp_empty (by decide)).1 hcon)
  have hgroup : strncmp h.info.functionalGroup ""
      (parseMaxFunctional - 1) = false :=
    Bool.eq_false_iff.2 fun hcon =>
      hheap.group h hh ((strncmp_empty (by decide)).1 hcon)
  unfold MatchInfo.matchesKey FindKey.names
  cases hcase : c.key with
  | bitfield uid =>
      rw [hcase] at hkey
      obtain rfl := Except.ok.inj hkey
      dsimp only
      rw [hname, hgroup, Bool.or_false, Bool.or_false]
      rfl
  | register regname calcValue =>
      rw [hcase] at hkey
      obtain ⟨name, hcopy, hkey⟩ := bind_eq_ok.1 hkey
      obtain rfl := Except.ok.inj hkey
      cases regname with
      | none => cases hcopy
      | some regname =>
          obtain rfl := Except.ok.inj hcopy
          have hcmp : strncmp h.registerNameExpanded
              (strncpy regname (parseMaxRegister - 1))
              (parseMaxRegister - 1) = true
                ↔ h.registerNameExpanded = regname :=
            strncmp_strncpy (hheap.nameLength h hh)
          simp only [huid, hgroup, Bool.false_or]
          rw [Bool.eq_iff_iff, decide_eq_true_eq, hcmp,
            Option.some.injEq]
          exact eq_comm
  | group groupname =>
      rw [hcase] at hkey
      obtain ⟨name, hcopy, hkey⟩ := bind_eq_ok.1 hkey
      obtain rfl := Except.ok.inj hkey
      cases groupname with
      | none => cases hcopy
      | some groupname =>
          obtain rfl := Except.ok.inj hcopy
          have hcmp : strncmp h.info.functionalGroup
              (strncpy groupname (parseMaxFunctional - 1))
              (parseMaxFunctional - 1) = true
                ↔ h.info.functionalGroup = groupname :=
            strncmp_strncpy (hheap.groupLength h hh)
          simp only [huid, hname, Bool.false_or, Bool.or_false]
          rw [Bool.eq_iff_iff, decide_eq_true_eq, hcmp,
            Option.some.injEq]
          exact eq_comm

/-- What the call wants of a heap. -/
def FindCall.wanted (c : FindCall) (info : MatchInfo)
    (heap : List BitfieldInfoHeap) : List BitfieldInfoHeap :=
  heap.filter fun h => c.key.names h && info.admits h

theorem filter_selects {heap : List BitfieldInfoHeap}
    (hheap : Searchable heap) {c : FindCall} {info : MatchInfo}
    (hinfo : c.request = some info)
    (harch : info.architecture = archArmv7a
      ∨ info.architecture = archArmv8a) :
    heap.filter info.selects = c.wanted info heap := by
  refine List.filter_congr fun h hh => ?_
  unfold MatchInfo.selects
  rw [matchesKey_eq hheap hinfo hh, matchesTable_eq harch]

/-- An empty key wants nothing. -/
theorem wanted_empty {heap : List BitfieldInfoHeap}
    (hheap : Searchable heap) {c : FindCall} (hkey : c.key.Empty)
    (info : MatchInfo) : c.wanted info heap = [] := by
  refine List.filter_eq_nil_iff.2 fun h hh hcon => ?_
  rw [Bool.and_eq_true] at hcon
  have hnames := hcon.1
  unfold FindKey.names at hnames
  unfold FindKey.Empty at hkey
  cases hcase : c.key with
  | bitfield uid =>
      rw [hcase] at hkey hnames
      obtain rfl : uid = 0 := hkey
      exact hheap.uid h hh (of_decide_eq_true hnames)
  | register regname calcValue =>
      rw [hcase] at hkey hnames
      obtain rfl : regname = some "" := hkey
      exact hheap.name h hh
        (Option.some.inj (of_decide_eq_true hnames)).symm
  | group groupname =>
      rw [hcase] at hkey hnames
      obtain rfl : groupname = some "" := hkey
      exact hheap.group h hh
        (Option.some.inj (of_decide_eq_true hnames)).symm

/-- Whatever is lost to failed allocations, nothing else is added. -/
theorem foldl_keep_sublist {α β : Type*} (p : α → Bool) (f : α → β)
    (l : List α) (a : Alloc) (out : List β) :
    ∃ kept : List α, kept.Sublist (l.filter p)
      ∧ (l.foldl (fun (s : List β × Alloc) x =>
          if p x then (msListAdd s.2 s.1 (f x)).2 else s) (out, a)).1
        = out ++ kept.map f := by
  induction l generalizing out a with
  | nil => exact ⟨[], List.Sublist.refl _, by simp⟩
  | cons x l ih =>
      rw [List.foldl_cons, List.filter_cons]
      cases hp : p x with
      | false => exact ih a out
      | true =>
          simp only [↓reduceIte]
          cases ha : a 0 with
          | false =>
              obtain ⟨kept, hsub, hkept⟩ := ih a.rest out
              refine ⟨kept, hsub.cons x, ?_⟩
              simpa [msListAdd, ha] using hkept
          | true =>
              obtain ⟨kept, hsub, hkept⟩ := ih a.rest (out ++ [f x])
              refine ⟨x :: kept, hsub.cons_cons x, ?_⟩
              simpa [msListAdd, ha] using hkept

theorem breakoutSearchTable_sublist (a : Alloc)
    (heap : List BitfieldInfoHeap) (info : MatchInfo)
    (out : List ResultsInfo) :
    ∃ kept : List BitfieldInfoHeap,
      kept.Sublist (heap.filter info.selects)
        ∧ (breakoutSearchTable a heap info out).2.1
          = out ++ kept.map (requestOf info) :=
  foldl_keep_sublist info.selects (requestOf info) heap a out

/-- A search selects, in heap order and once each, exactly the entries
its key names whole and whose table is asked for. One that cannot be
recorded is left out; nothing else ever is, and nothing is added. -/
theorem selection_exact {heap : List BitfieldInfoHeap}
    (hheap : Searchable heap) {c : FindCall} {info : MatchInfo}
    (hinfo : c.request = some info) (out : List ResultsInfo) :
    (∃ arch impl, c.args.arch = some arch ∧ c.args.impl = some impl
        ∧ (arch = "armv7a" ∧ info.architecture = archArmv7a
          ∨ arch = "armv8a" ∧ info.architecture = archArmv8a)
        ∧ (impl, info.implementation) ∈ implementations)
      ∧ breakoutSearchTable .ok heap info out
        = (0, out ++ (c.wanted info heap).map (requestOf info), .ok)
      ∧ (∀ a, ∃ kept : List BitfieldInfoHeap,
        kept.Sublist (c.wanted info heap)
        ∧ (breakoutSearchTable a heap info out).2.1
          = out ++ kept.map (requestOf info))
      ∧ (c.key.Empty → c.wanted info heap = []) := by
  obtain ⟨base, hset, hkey⟩ := FindCall.request_some hinfo
  obtain ⟨arch, impl, architecture, implementation, harch, himpl, hmarch,
    hmimpl, rfl⟩ := setMatchInfo_some hset
  have hids : info.architecture = architecture
      ∧ info.implementation = implementation := FindKey.set_ids hkey
  have hmarch := matchArchitecture_iff.1 hmarch
  have hmimpl := matchImplementation_iff.1 hmimpl
  rw [← hids.1] at hmarch
  rw [← hids.2] at hmimpl
  have hwanted : heap.filter info.selects = c.wanted info heap :=
    filter_selects hheap hinfo (hmarch.imp And.right And.right)
  refine ⟨⟨arch, impl, harch, himpl, hmarch, hmimpl⟩, ?_, ?_,
    fun hempty => wanted_empty hheap hempty info⟩
  · rw [breakoutSearchTable_ok, hwanted]
  · intro a
    rw [← hwanted]
    exact breakoutSearchTable_sublist a heap info out

theorem smallHeap_searchable : Searchable smallHeap where
  uid := by decide
  name := by decide
  nameLength := by decide
  group := by decide
  groupLength := by decide

/-- A search for PMCR on ARMv7-A. -/
def pmcrFind : FindCall :=
  ⟨{}, { arch := some "armv7a", impl := some "all" },
    .register (some "PMCR") none⟩

/-- Its request. -/
def pmcrRequest : MatchInfo :=
  { registerName := "PMCR"
    architecture := archArmv7a
    implementation := implAll
    pl := preferredPl
    cpu := .allOnes 32 }

theorem selection_exact_pmcr :
    breakoutSearchTable .ok smallHeap pmcrRequest []
      = (0, [] ++ (pmcrFind.wanted pmcrRequest smallHeap).map
          (requestOf pmcrRequest), .ok) :=
  (selection_exact smallHeap_searchable (c := pmcrFind)
    (by decide +kernel) []).2.1

end Maplesyrup
