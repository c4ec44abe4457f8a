/-
What does a command line mean?

The last value of an option is the one that counts, and so is the last
setting of a flag. `given` says it in these words, of the options that
`getopt_long` meets; the loop adds one at a time to what those before
have given (`read_met`). With the round trip of `getopt_long` this is what
`main` acts on, however its options are spelled and wherever its operands
stand (`main_meant`).

# -t

The option string has a `t` that the loop has no case for. `main` returns
there, with what it has printed so far.

# What nobody writes

With --arch, --impl and a short value, a run has nothing of the bytes the
arrays held before (`main_stale`): a name too long for its array is none
that a search knows, whatever stands behind it.
-/
import Maplesyrup.Base.Except
import Maplesyrup.Frontend.Main
import Maplesyrup.Frontend.Proofs.All
import Maplesyrup.Library.Proofs.Request

namespace Maplesyrup

open Base

variable {δ : Type} {t : Target} {mets : List (Met Opt)}

-- ============================================================== what is told

/-- The last of what the options tell. -/
def lastOf {β : Type} (f : Met Opt → Option β) (mets : List (Met Opt)) :
    Option β :=
  (mets.filterMap f).getLast?

/-- The value given to the option. -/
def valueOf (o : Opt) : Met Opt → Option Text
  | .option o' value => if o' = o then some (value.getD []) else none
  | .unknown => none

/-- The value the flag is set to. -/
def settingOf (f : Flag) : Met Opt → Option Nat
  | .option (.flag f' val) _ => if f' = f then some val else none
  | _ => none

def showsUsage : Met Opt → Bool
  | .option .h _ => true
  | .unknown => true
  | _ => false

def goesOn : Met Opt → Bool
  | .option .t _ => false
  | _ => true

/-- What the options give `main`. -/
def given (t : Target) (screen : List Screen) (mets : List (Met Opt)) :
    Given where
  argArch := lastOf (valueOf .a) mets
  argImpl := lastOf (valueOf .i) mets
  argCalc := lastOf (valueOf .v) mets
  argCore := ((lastOf (valueOf .c) mets).map (atoi t)).getD (-1)
  flag f := (lastOf (settingOf f) mets).getD 0
  screen := screen ++ List.replicate (mets.countP showsUsage) .usage

-- ================================================================= the loop

theorem lastOf_snoc {β : Type} (f : Met Opt → Option β)
    (mets : List (Met Opt)) (m : Met Opt) :
    lastOf f (mets ++ [m]) = (f m).or (lastOf f mets) := by
  unfold lastOf
  rw [List.filterMap_append, List.getLast?_append]
  congr 1
  cases h : f m with
  | none => simp [h]
  | some x => simp [h]

theorem given_nil (t : Target) (screen : List Screen) :
    given t screen [] = { screen := screen } := by
  unfold given
  simp [lastOf]

/-- One option more. -/
theorem read_met (t : Target) (screen : List Screen)
    (mets : List (Met Opt)) {m : Met Opt} (h : goesOn m = true) :
    Given.read t (given t screen mets) m
      = .ok (given t screen (mets ++ [m])) := by
  have hcount : ∀ n, List.replicate n Screen.usage ++ [.usage]
      = List.replicate (n + 1) .usage := fun n =>
    List.replicate_succ'.symm
  cases m with
  | unknown =>
      unfold Given.read given
      simp [lastOf_snoc, valueOf, settingOf, showsUsage, hcount]
  | option o value =>
      cases o with
      | t => cases h
      | flag f val =>
          have hflag : Function.update (given t screen mets).flag f val
              = fun f' => ((settingOf f' (.option (.flag f val) value)).or
                (lastOf (settingOf f') mets)).getD 0 := by
            funext f'
            by_cases hf : f' = f
            · subst hf
              simp [settingOf]
            · simp [settingOf, hf, Ne.symm hf, given]
          rw [Given.read, hflag]
          unfold given
          simp [lastOf_snoc, valueOf, showsUsage]
      | h =>
          unfold Given.read given
          simp [lastOf_snoc, valueOf, settingOf, showsUsage, hcount]
      | a | i | c | v =>
          unfold Given.read given
          simp [lastOf_snoc, valueOf, settingOf, showsUsage]

/-- All options, none of them -t. -/
theorem read_mets (t : Target) (screen : List Screen)
    {mets : List (Met Opt)} (h : ∀ m ∈ mets, goesOn m = true) :
    mets.foldlM (Given.read t) { screen := screen }
      = .ok (given t screen mets) := by
  induction mets using List.reverseRecOn with
  | nil =>
      rw [given_nil]
      rfl
  | append_singleton mets m ih =>
      have hmets : ∀ x ∈ mets, goesOn x = true := fun x hx =>
        h x (List.mem_append_left _ hx)
      have hm := h m (List.mem_append_right _ (List.mem_singleton_self _))
      rw [List.foldlM_append, ih hmets, ok_bind, List.foldlM_cons,
        read_met t screen mets hm]
      rfl

/-- Where one of the options is -t, there is a first. -/
theorem first_stop {mets : List (Met Opt)} (h : ¬ mets.all goesOn = true) :
    ∃ value rest, mets
      = mets.takeWhile goesOn ++ .option .t value :: rest := by
  cases hdrop : mets.dropWhile goesOn with
  | nil =>
      exact absurd (List.all_eq_true.2 (List.dropWhile_eq_nil_iff.1 hdrop))
        h
  | cons m rest =>
      have hstop : ¬ goesOn m = true := by
        have hhead := List.head_dropWhile_not goesOn
          (l := mets) (by rw [hdrop]; exact List.cons_ne_nil _ _)
        simpa [hdrop] using hhead
      obtain ⟨value, rfl⟩ : ∃ value, m = .option .t value := by
        cases m with
        | unknown => exact absurd rfl hstop
        | option o value =>
            cases o with
            | t => exact ⟨value, rfl⟩
            | _ => exact absurd rfl hstop
      refine ⟨value, rest, ?_⟩
      rw [← hdrop, List.takeWhile_append_dropWhile]

/-- The first -t ends the run. -/
theorem read_stopped (t : Target) (screen : List Screen)
    {mets : List (Met Opt)} (h : ¬ mets.all goesOn = true) :
    mets.foldlM (Given.read t) { screen := screen }
      = .error ((given t screen (mets.takeWhile goesOn)).screen
        ++ [.helpBanner]) := by
  obtain ⟨value, rest, hsplit⟩ := first_stop h
  have hgo : ∀ m ∈ mets.takeWhile goesOn, goesOn m = true :=
    fun m hm => List.mem_takeWhile_imp hm
  conv => lhs; rw [hsplit]
  rw [List.foldlM_append, read_mets t screen hgo, ok_bind]
  rfl

-- ================================================================== the line

/-- Reading the options prints banners and usages. -/
theorem mem_given_screen {argv : List Text} {x : Screen}
    (hx : x ∈ (given t (greeting argv) mets).screen) :
    x = .helpBanner ∨ x = .usage := by
  rcases List.mem_append.1 hx with hx | hx
  · unfold greeting at hx
    split at hx
    · exact Or.inl (List.mem_singleton.1 hx)
    · cases hx
  · exact Or.inr (List.eq_of_mem_replicate hx)

/-- What options and operands mean to `main`. -/
def mainMeant (H : Host δ) (tables : List BitfieldTableEntry) (t : Target)
    (stale : Stale) (screen : List Screen) (mets : List (Met Opt))
    (operands : List Text) (listing : Outcome) (o : Nat → Outcome)
    (p : Process δ) : Except Fault (MainRun δ) :=
  if mets.all goesOn then
    mainGiven H tables t stale (given t screen mets) operands.head?
      listing o p
  else
    .ok ⟨-1, (given t screen (mets.takeWhile goesOn)).screen
      ++ [.helpBanner], p⟩

theorem main_eq (H : Host δ) (tables : List BitfieldTableEntry)
    (t : Target) (stale : Stale) (argv : List Text) (listing : Outcome)
    (o : Nat → Outcome) (p : Process δ) :
    main H tables t stale argv listing o p
      = mainMeant H tables t stale (greeting argv)
          (getopt grammar argv).1 (getopt grammar argv).2 listing o p := by
  unfold main mainMeant
  by_cases hall : (getopt grammar argv).1.all goesOn = true
  · rw [if_pos hall,
      read_mets t (greeting argv) (List.all_eq_true.1 hall)]
  · rw [if_neg hall, read_stopped t (greeting argv) hall]

/-- A command line, however it is spelled and mixed. -/
theorem main_meant (H : Host δ) (tables : List BitfieldTableEntry)
    (t : Target) (stale : Stale) {items : List (Item Opt)}
    {words : List (List Text)}
    (h : List.Forall₂ (Spelled grammar) items words)
    {tail behind : List Text} (htail : Tail tail behind)
    (listing : Outcome) (o : Nat → Outcome) (p : Process δ) :
    main H tables t stale (words.flatten ++ tail) listing o p
      = mainMeant H tables t stale (greeting (words.flatten ++ tail))
          (items.flatMap Item.met)
          (items.flatMap Item.operands ++ behind) listing o p := by
  rw [main_eq, getopt_spelled h htail]

/-- To search for MIDR on all cores of an architecture. -/
def midrItems : List (Item Opt) := [
  .option (.flag .register 1) none,
  .operand "MIDR".toList,
  .option .a (some "armv7a".toList),
  .option .i (some "all".toList)]

/-- With an abbreviation, and the operand in between. -/
def midrWords : List (List Text) := [
  ["--reg".toList],
  ["MIDR".toList],
  ["--arch=armv7a".toList],
  ["-i".toList, "all".toList]]

theorem midr_spelled :
    List.Forall₂ (Spelled grammar) midrItems midrWords := by
  refine .cons ?_ (.cons ?_ (.cons ?_ (.cons ?_ .nil)))
  · exact Spelled.long "reg".toList _ (by decide) (by decide) (by decide)
  · refine Spelled.operand _ fun c cs h => ?_
    exact absurd (List.cons.inj h).1 (by decide)
  · exact Spelled.longValue "arch".toList Opt.a "armv7a".toList
      (by decide) (by decide)
  · exact Spelled.shortNext 'i' Opt.i "all".toList (by decide) (by decide)

theorem midr_met : (getopt grammar midrWords.flatten).1 = [
    .option (.flag .register 1) none,
    .option .a (some "armv7a".toList),
    .option .i (some "all".toList)] := by
  decide

/-- What the stack holds may be anything. -/
def someStale : Stale := ⟨⟨"x", "y"⟩, ⟨"", "z"⟩, ⟨"1", ""⟩⟩

def noStale : Stale := ⟨⟨"", ""⟩, ⟨"", ""⟩, ⟨"", ""⟩⟩

theorem main_meant_midr :
    main a7Host foreignTables .aarch32 someStale (midrWords.flatten ++ [])
        {} (fun _ => {}) ⟨{}, -1, {}, ()⟩
      = mainMeant a7Host foreignTables .aarch32 someStale
          (greeting (midrWords.flatten ++ [])) (midrItems.flatMap Item.met)
          (midrItems.flatMap Item.operands ++ []) {} (fun _ => {})
          ⟨{}, -1, {}, ()⟩ :=
  main_meant a7Host foreignTables .aarch32 someStale midr_spelled .none
    {} (fun _ => {}) ⟨{}, -1, {}, ()⟩

-- ============================================================ stale bytes

/-- The text of an array is the option's, or it fills the array. -/
theorem arrayText_some (size : Nat) (junk junk' : Junk) (optarg : Text) :
    arrayText size junk (some optarg) = arrayText size junk' (some optarg)
      ∨ ∀ j : Junk,
        size - 1 ≤ (arrayText size j (some optarg)).length := by
  unfold arrayText
  dsimp only
  by_cases hshort : optarg.length < size - 1
  · rw [if_pos hshort, if_pos hshort]
    exact Or.inl rfl
  · refine Or.inr fun j => ?_
    rw [if_neg hshort, String.length_append, String.length_ofList,
      List.length_take]
    omega

/-- A name that fills its array is no architecture. -/
theorem matchArchitecture_array (junk junk' : Junk) (optarg : Text) :
    matchArchitecture (arrayText maxArchBuffer junk (some optarg))
      = matchArchitecture
          (arrayText maxArchBuffer junk' (some optarg)) := by
  have hnone : ∀ s : String, 15 ≤ s.length →
      matchArchitecture s = none := by
    intro s hs
    rw [Option.eq_none_iff_forall_ne_some]
    intro id hid
    rcases matchArchitecture_iff.1 hid with ⟨rfl, -⟩ | ⟨rfl, -⟩
    · exact absurd hs (by decide)
    · exact absurd hs (by decide)
  rcases arrayText_some maxArchBuffer junk junk' optarg with h | h
  · rw [h]
  · rw [hnone _ (h junk), hnone _ (h junk')]

/-- Nor an implementation. -/
theorem matchImplementation_array (junk junk' : Junk) (optarg : Text) :
    matchImplementation (arrayText maxArchBuffer junk (some optarg))
      = matchImplementation
          (arrayText maxArchBuffer junk' (some optarg)) := by
  have hshort : ∀ q ∈ implementations, q.1.length < 15 := by
    decide
  have hnone : ∀ s : String, 15 ≤ s.length →
      matchImplementation s = none := by
    intro s hs
    rw [Option.eq_none_iff_forall_ne_some]
    intro id hid
    have hlt := hshort _ (matchImplementation_iff.1 hid)
    exact absurd hs (Nat.not_le.2 hlt)
  rcases arrayText_some maxArchBuffer junk junk' optarg with h | h
  · rw [h]
  · rw [hnone _ (h junk), hnone _ (h junk')]

/-- A request has the ids of the names only. -/
theorem setMatchInfo_names {a a' i i' : String}
    (harch : matchArchitecture a = matchArchitecture a')
    (himpl : matchImplementation i = matchImplementation i')
    (errnoRange : Bool) (cpu : Int) (pl noparse : U32)
    (calcValue : Option String) :
    setMatchInfo errnoRange (some a) (some i) cpu pl noparse calcValue
      = setMatchInfo errnoRange (some a') (some i') cpu pl noparse
        calcValue := by
  unfold setMatchInfo
  show (matchArchitecture a).bind _ = (matchArchitecture a').bind _
  rw [harch]
  congr 1
  funext architecture
  show (matchImplementation i).bind _ = (matchImplementation i').bind _
  rw [himpl]

/-- Arguments that no search can tell apart. -/
structure FindArgs.Alike (args args' : FindArgs) : Prop where
  ask : ∀ errnoRange calcValue,
    setMatchInfo errnoRange args.arch args.impl args.cpu args.pl
        args.noparse calcValue
      = setMatchInfo errnoRange args'.arch args'.impl args'.cpu args'.pl
        args'.noparse calcValue
  includeDevices : args.includeDevices = args'.includeDevices
  resultsOut : args.resultsOut = args'.resultsOut

theorem FindCall.run_alike (H : Host δ)
    (tables : List BitfieldTableEntry) (o : Outcome)
    {args args' : FindArgs} (h : args.Alike args') (key : FindKey)
    (p : Process δ) :
    FindCall.run H tables ⟨o, args, key⟩ p
      = FindCall.run H tables ⟨o, args', key⟩ p := by
  have hstarted : ∀ started q,
      findStarted H tables o args key.calcValue key.set started q
        = findStarted H tables o args' key.calcValue key.set started q := by
    intro started q
    unfold findStarted
    rw [h.ask, h.includeDevices]
  rw [FindCall.run_eq, FindCall.run_eq]
  unfold msFind
  rw [h.resultsOut]
  dsimp only
  rw [hstarted, hstarted]

/-- The options of two runs that no search can tell apart. -/
structure Options.Alike (opts opts' : Options) : Prop where
  args : opts.findArgs.Alike opts'.findArgs
  showerrors : opts.flagFbShowerrors = opts'.flagFbShowerrors
  devices : opts.flagFbDevices = opts'.flagFbDevices

theorem mainAll_alike (H : Host δ) (tables : List BitfieldTableEntry)
    {opts opts' : Options} (h : opts.Alike opts') (listing : Outcome)
    (o : Nat → Outcome) (p : Process δ) :
    mainAll H tables opts listing o p
      = mainAll H tables opts' listing o p := by
  have hgroups : ∀ (xs : List MsBitfieldInfo) (o : Nat → Outcome)
      (p : Process δ), findGroups H tables opts xs o p
        = findGroups H tables opts' xs o p := by
    intro xs
    induction xs with
    | nil => intro o p; rfl
    | cons x xs ih =>
        intro o p
        have hcall := FindCall.run_alike H tables (o 0) h.args
          (.group (some x.functionalGroup)) p
        unfold FindCall.run at hcall
        dsimp only at hcall
        rw [findGroups, findGroups, hcall, h.showerrors]
        simp only [ih]
  unfold mainAll
  rw [h.devices, h.showerrors]
  simp only [hgroups]

theorem mainFind_alike (H : Host δ) (tables : List BitfieldTableEntry)
    {opts opts' : Options} (h : opts.Alike opts') (o : Outcome)
    (key : FindKey) (p : Process δ) :
    mainFind H tables opts o key p = mainFind H tables opts' o key p := by
  unfold mainFind
  rw [FindCall.run_alike H tables o h.args, h.showerrors]

theorem mainSearch_alike (H : Host δ) (tables : List BitfieldTableEntry)
    {stale stale' : Stale} {g : Given}
    (hopts : (g.options stale).Alike (g.options stale'))
    (hkey : g.key t stale = g.key t stale') (operand : Option Text)
    (listing : Outcome) (o : Nat → Outcome) (p : Process δ) :
    mainSearch H tables t stale g operand listing o p
      = mainSearch H tables t stale' g operand listing o p := by
  unfold mainSearch
  dsimp only
  rw [hkey]
  cases g.key t stale' with
  | some key =>
      cases operand with
      | some s => exact mainFind_alike H tables hopts (o 0) _ p
      | none =>
          dsimp only
          rw [hopts.showerrors]
  | none =>
      dsimp only
      rw [mainAll_alike H tables hopts]

theorem mainGiven_alike (H : Host δ) (tables : List BitfieldTableEntry)
    {stale stale' : Stale} {g : Given}
    (hopts : (g.options stale).Alike (g.options stale'))
    (hkey : g.key t stale = g.key t stale') (operand : Option Text)
    (listing : Outcome) (o : Nat → Outcome) (p : Process δ) :
    mainGiven H tables t stale g operand listing o p
      = mainGiven H tables t stale' g operand listing o p := by
  unfold mainGiven mainShowInfo
  rw [mainSearch_alike H tables hopts hkey, hopts.showerrors,
    hopts.devices]

theorem Given.options_stale {g : Given} {arch impl : Text}
    (harch : g.argArch = some arch) (himpl : g.argImpl = some impl)
    (stale stale' : Stale) :
    (g.options stale).Alike (g.options stale') := by
  refine ⟨⟨fun errnoRange calcValue => ?_, rfl, rfl⟩, rfl, rfl⟩
  refine setMatchInfo_names ?_ ?_ ..
  · show matchArchitecture (arrayText _ _ g.argArch)
      = matchArchitecture (arrayText _ _ g.argArch)
    rw [harch]
    exact matchArchitecture_array _ _ _
  · show matchImplementation (arrayText _ _ g.argImpl)
      = matchImplementation (arrayText _ _ g.argImpl)
    rw [himpl]
    exact matchImplementation_array _ _ _

theorem Given.key_stale {g : Given}
    (hcalc : ∀ c, g.argCalc = some c → c.length < maxCalcBuffer - 1)
    (stale stale' : Stale) : g.key t stale = g.key t stale' := by
  have hvalue : ∀ s : Stale, (g.argCalc.map fun c =>
      arrayText maxCalcBuffer s.argCalc (some c))
        = g.argCalc.map String.ofList := by
    intro s
    cases hc : g.argCalc with
    | none => rfl
    | some c => exact congrArg some (if_pos (hcalc c hc))
  unfold Given.key
  rw [hvalue stale, hvalue stale']

/-- An option that is met has a last value. -/
theorem lastOf_met {o : Opt} {value : Option Text}
    (h : .option o value ∈ mets) :
    ∃ s, lastOf (valueOf o) mets = some s := by
  have hmem : value.getD [] ∈ mets.filterMap (valueOf o) :=
    List.mem_filterMap.2 ⟨_, h, if_pos rfl⟩
  exact Option.ne_none_iff_exists'.1 fun hnone =>
    List.ne_nil_of_mem hmem (List.getLast?_eq_none_iff.1 hnone)

/-- It is one that was met. -/
theorem lastOf_mem {o : Opt} {s : Text}
    (h : lastOf (valueOf o) mets = some s) :
    ∃ v, .option o v ∈ mets ∧ s = v.getD [] := by
  obtain ⟨m, hm, hvalue⟩ := List.mem_filterMap.1 (List.mem_of_getLast? h)
  cases m with
  | unknown => cases hvalue
  | option o' v =>
      obtain ⟨rfl, hv⟩ := Option.ite_none_right_eq_some.1 hvalue
      exact ⟨v, hm, (Option.some.inj hv).symm⟩

/-- With names for both arrays, and values that fit theirs, the bytes the
arrays held before are nowhere in a run. -/
theorem main_stale (H : Host δ) (tables : List BitfieldTableEntry)
    (t : Target) {argv : List Text}
    (harch : ∃ v, .option .a v ∈ (getopt grammar argv).1)
    (himpl : ∃ v, .option .i v ∈ (getopt grammar argv).1)
    (hcalc : ∀ v, .option .v v ∈ (getopt grammar argv).1 →
      (v.getD []).length < maxCalcBuffer - 1)
    (stale stale' : Stale) (listing : Outcome) (o : Nat → Outcome)
    (p : Process δ) :
    main H tables t stale argv listing o p
      = main H tables t stale' argv listing o p := by
  obtain ⟨_, harch⟩ := harch
  obtain ⟨_, himpl⟩ := himpl
  obtain ⟨arch, harch⟩ := lastOf_met harch
  obtain ⟨impl, himpl⟩ := lastOf_met himpl
  rw [main_eq, main_eq]
  unfold mainMeant
  congr 1
  refine mainGiven_alike H tables
    (Given.options_stale harch himpl stale stale')
    (Given.key_stale (fun c hc => ?_) stale stale') _ listing o p
  obtain ⟨v, hv, rfl⟩ := lastOf_mem hc
  exact hcalc v hv

theorem main_stale_midr :
    main a7Host foreignTables .aarch32 noStale midrWords.flatten {}
        (fun _ => {}) ⟨{}, -1, {}, ()⟩
      = main a7Host foreignTables .aarch32 someStale midrWords.flatten {}
          (fun _ => {}) ⟨{}, -1, {}, ()⟩ :=
  main_stale a7Host foreignTables .aarch32
    ⟨some "armv7a".toList, by simp [midr_met]⟩
    ⟨some "all".toList, by simp [midr_met]⟩
    (fun v hv => by simp [midr_met] at hv) _ _ {} (fun _ => {})
    ⟨{}, -1, {}, ()⟩

end Maplesyrup
