import Mathlib.Data.Nat.Notation
import Mathlib.Tactic.SplitIfs

/-!
# The command line

The first half of `main` in `proxy.cc`: a loop over the arguments that tells the UE count, the
options and the addresses apart, and a `switch` on the number of addresses that gives each of them
its role. The loop keeps four variables and overwrites three of them, so what it ends with depends
on the order of the arguments. `readArguments_eq` says what that is: the last UE count, the last
mode, the last running time, and every address in the order of the command line.

The characters of a string stand for the bytes of an argument.
-/

set_option autoImplicit false
set_option relaxedAutoImplicit false

namespace MultiUeProxy.Startup.CommandLine

/-! ### The functions -/

/-- `softmodem_mode_t`. -/
inductive SoftmodemMode where
  | lte
  | nr
  | nsa
  deriving DecidableEq, Repr

/-- The ways in which the program ends before it has read its command line. -/
inductive Exit where
  /-- `return EXIT_SUCCESS` after `show_usage`. -/
  | success
  /-- `die`, with the message it prints after the program's name. -/
  | failure (msg : String)
  /-- `std::invalid_argument`, which nothing catches. -/
  | invalidArgument
  /-- `std::out_of_range`, which nothing catches. -/
  | outOfRange
  deriving DecidableEq, Repr

def die {α : Type} (msg : String) : Except Exit α := .error (.failure msg)

def tryHelp {α : Type} (msg : String) : Except Exit α := die (msg ++ " (try --help)")

/-- `is_numeric`, which the empty string passes. -/
def isNumeric (s : String) : Bool := s.toList.all Char.isDigit

/-- The value of a digit. -/
def digitValue (c : Char) : ℕ := c.toNat - '0'.toNat

/-- The number that a string of digits writes. -/
def number (s : String) : ℕ := s.toList.foldl (fun n c ↦ 10 * n + digitValue c) 0

/-- `std::stoi` on a string of digits. -/
def stoi (s : String) : Except Exit ℕ :=
  if s.toList.isEmpty then .error .invalidArgument
  else if number s < 2147483648 then .ok (number s)
  else .error .outOfRange

/-- How far `inet_pton` is: the octets it has begun, the value of the last of them, and whether
the character before was a digit. -/
structure Octets where
  octets : ℕ := 0
  value : ℕ := 0
  sawDigit : Bool := false

/-- `inet_pton` for `AF_INET`: four decimal octets, written without leading zeros and divided by
dots. -/
def inetPton4 : Octets → List Char → Bool
  | s, [] => 4 ≤ s.octets
  | s, ch :: src =>
    if ch.isDigit then
      if s.sawDigit && s.value = 0 then false
      else if 255 < s.value * 10 + digitValue ch then false
      else if s.sawDigit then inetPton4 { s with value := s.value * 10 + digitValue ch } src
      else if 4 < s.octets + 1 then false
      else inetPton4 ⟨s.octets + 1, s.value * 10 + digitValue ch, true⟩ src
    else if ch = '.' && s.sawDigit then
      if s.octets = 4 then false else inetPton4 ⟨s.octets, 0, false⟩ src
    else false

def isIpaddress (s : String) : Bool := inetPton4 {} s.toList

/-- The variables of the loop over the arguments. `ues` and `maxSeconds` are never negative, since
`stoi` is only called on digits. -/
structure Arguments where
  ues : ℕ := 1
  maxSeconds : ℕ := 600
  softmodemMode : SoftmodemMode := .lte
  ipaddrs : List String := []
  deriving DecidableEq, Repr

/-- The loop over the arguments behind the program's name. -/
def readArguments (state : Arguments) : List String → Except Exit Arguments
  | [] => .ok state
  | arg :: rest =>
    if arg = "--help" then .error .success
    else if isNumeric arg then do
      let ues ← stoi arg
      if ues < 1 then die "invalid number of UEs" else readArguments { state with ues := ues } rest
    else if arg = "--lte" then readArguments { state with softmodemMode := .lte } rest
    else if arg = "--nr" then readArguments { state with softmodemMode := .nr } rest
    else if arg = "--nsa" then readArguments { state with softmodemMode := .nsa } rest
    else if arg = "--max-seconds" then
      match rest with
      | [] => tryHelp "Expected an integer after --max-seconds"
      | seconds :: rest =>
        if isNumeric seconds then do
          let maxSeconds ← stoi seconds
          readArguments { state with maxSeconds := maxSeconds } rest
        else tryHelp "Expected an integer after --max-seconds"
    else if isIpaddress arg then
      readArguments { state with ipaddrs := state.ipaddrs ++ [arg] } rest
    else tryHelp ("unexpected argument: " ++ arg)

/-- What `main` has read when it begins to construct the proxies. -/
structure Settings where
  ues : ℕ
  maxSeconds : ℕ
  softmodemMode : SoftmodemMode
  enbIpaddr : String := "127.0.0.1"
  gnbIpaddr : String := "127.0.0.2"
  proxyIpaddr : String := "127.0.0.1"
  ueIpaddr : List String := []
  deriving DecidableEq, Repr

/-- The `switch` on the number of addresses. With five addresses or more the first condition asks
for two modes at once. -/
def assignAddresses (a : Arguments) : Except Exit Settings :=
  let settings : Settings :=
    { ues := a.ues, maxSeconds := a.maxSeconds, softmodemMode := a.softmodemMode }
  match a.ipaddrs with
  | [] => .ok { settings with ueIpaddr := List.replicate a.ues "127.0.0.1" }
  | [_] | [_, _] => tryHelp "Wrong number of IP addresses"
  | [first, second, third] =>
    if a.softmodemMode = .nsa then tryHelp "Wrong number of IP addresses"
    else .ok { settings with
      enbIpaddr := first, gnbIpaddr := first, proxyIpaddr := second, ueIpaddr := [third] }
  | [first, second, third, fourth] =>
    if a.softmodemMode = .nsa then .ok { settings with
      enbIpaddr := first, gnbIpaddr := second, proxyIpaddr := third, ueIpaddr := [fourth] }
    else if a.ues = 2 then .ok { settings with
      enbIpaddr := first, gnbIpaddr := first, proxyIpaddr := second, ueIpaddr := [third, fourth] }
    else tryHelp "Wrong number of IP addresses"
  | first :: second :: third :: rest =>
    if a.softmodemMode = .nr ∧ a.softmodemMode = .lte then .ok { settings with
      enbIpaddr := first, gnbIpaddr := first, proxyIpaddr := second, ueIpaddr := third :: rest }
    else if a.softmodemMode = .nsa then .ok { settings with
      enbIpaddr := first, gnbIpaddr := second, proxyIpaddr := third, ueIpaddr := rest }
    else .ok settings

/-- `main` up to the construction of the proxies. -/
def main (args : List String) : Except Exit Settings := do
  let a ← readArguments {} args
  assignAddresses a

/-! ### What a command line says -/

/-- The arguments that are not the value of `--max-seconds`. -/
def operands : List String → List String
  | [] => []
  | [arg] => if arg = "--max-seconds" then [] else [arg]
  | arg :: next :: rest =>
    if arg = "--max-seconds" then operands rest else arg :: operands (next :: rest)

/-- The values of `--max-seconds`. -/
def limits : List String → List String
  | [] | [_] => []
  | arg :: next :: rest =>
    if arg = "--max-seconds" then next :: limits rest else limits (next :: rest)

/-- The mode that an argument chooses. -/
def modeOption (arg : String) : Option SoftmodemMode :=
  if arg = "--lte" then some .lte
  else if arg = "--nr" then some .nr
  else if arg = "--nsa" then some .nsa
  else none

def ueCounts (args : List String) : List ℕ := ((operands args).filter isNumeric).map number

def modes (args : List String) : List SoftmodemMode := (operands args).filterMap modeOption

def addresses (args : List String) : List String := (operands args).filter isIpaddress

/-- What the variables of the loop are after a command line: the last value of each, and all the
addresses. -/
def Arguments.after (state : Arguments) (args : List String) : Arguments where
  ues := (ueCounts args).getLast?.getD state.ues
  maxSeconds := ((limits args).map number).getLast?.getD state.maxSeconds
  softmodemMode := (modes args).getLast?.getD state.softmodemMode
  ipaddrs := state.ipaddrs ++ addresses args

/-! ### Numbers and addresses -/

/-- A string of digits has no dot, so it is not an address. -/
theorem inetPton4_of_digits (s : Octets) (src : List Char) (hdigits : src.all Char.isDigit)
    (hoctets : s.octets < 4) (hfirst : s.sawDigit = false → s.octets < 3) :
    inetPton4 s src = false := by
  induction src generalizing s with
  | nil => exact decide_eq_false (Nat.not_le.mpr hoctets)
  | cons ch src ih =>
    rw [List.all_cons, Bool.and_eq_true] at hdigits
    unfold inetPton4
    rw [if_pos hdigits.1]
    split_ifs with hzero hlarge hdigit hmany
    · rfl
    · rfl
    · refine ih _ hdigits.2 hoctets ?_
      intro hfalse
      exact absurd hdigit (Bool.eq_false_iff.mp hfalse)
    · rfl
    · have hthree := hfirst (Bool.eq_false_iff.mpr hdigit)
      refine ih _ hdigits.2 (Nat.succ_lt_succ hthree) ?_
      intro hfalse
      exact absurd hfalse Bool.noConfusion

theorem isIpaddress_of_isNumeric {s : String} (h : isNumeric s) : isIpaddress s = false :=
  inetPton4_of_digits {} s.toList h (by decide) fun _ ↦ by decide

theorem modeOption_of_isNumeric {s : String} (h : isNumeric s) : modeOption s = none := by
  unfold modeOption
  split_ifs with hlte hnr hnsa
  · subst hlte
    exact absurd h (by decide)
  · subst hnr
    exact absurd h (by decide)
  · subst hnsa
    exact absurd h (by decide)
  · rfl

theorem not_of_modeOption {s : String} {mode : SoftmodemMode} (h : modeOption s = some mode) :
    isNumeric s = false ∧ isIpaddress s = false := by
  unfold modeOption at h
  split_ifs at h with hlte hnr hnsa
  · subst hlte
    exact ⟨by decide, by decide⟩
  · subst hnr
    exact ⟨by decide, by decide⟩
  · subst hnsa
    exact ⟨by decide, by decide⟩

theorem stoi_ok {s : String} {n : ℕ} (h : stoi s = .ok n) : n = number s := by
  unfold stoi at h
  split_ifs at h
  exact (Except.ok.inj h).symm

/-! ### The loop -/

theorem operands_cons {arg : String} (h : arg ≠ "--max-seconds") (rest : List String) :
    operands (arg :: rest) = arg :: operands rest := by
  cases rest with
  | nil => exact if_neg h
  | cons next rest => exact if_neg h

theorem limits_cons {arg : String} (h : arg ≠ "--max-seconds") (rest : List String) :
    limits (arg :: rest) = limits rest := by
  cases rest with
  | nil => rfl
  | cons next rest => exact if_neg h

theorem getLast?_getD_append {α : Type} (xs ys : List α) (d : α) :
    (xs ++ ys).getLast?.getD d = ys.getLast?.getD (xs.getLast?.getD d) := by
  rw [List.getLast?_append]
  cases ys.getLast? with
  | none => rfl
  | some y => rfl

/-- The variables after a command line that begins with an operand. -/
theorem after_cons (state : Arguments) {arg : String} (h : arg ≠ "--max-seconds")
    (rest : List String) :
    state.after (arg :: rest) = Arguments.after {
      ues := if isNumeric arg then number arg else state.ues
      maxSeconds := state.maxSeconds
      softmodemMode := (modeOption arg).getD state.softmodemMode
      ipaddrs := if isIpaddress arg then state.ipaddrs ++ [arg] else state.ipaddrs } rest := by
  have hsplit : operands (arg :: rest) = [arg] ++ operands rest := operands_cons h rest
  unfold Arguments.after
  congr 1
  · show (((operands (arg :: rest)).filter isNumeric).map number).getLast?.getD _ = _
    rw [hsplit, List.filter_append, List.map_append, getLast?_getD_append]
    congr 1
    by_cases hnumeric : isNumeric arg
    · rw [if_pos hnumeric, List.filter_cons_of_pos hnumeric]
      rfl
    · rw [if_neg hnumeric, List.filter_cons_of_neg hnumeric]
      rfl
  · rw [limits_cons h]
  · show ((operands (arg :: rest)).filterMap modeOption).getLast?.getD _ = _
    rw [hsplit, List.filterMap_append, getLast?_getD_append]
    congr 1
    cases hmode : modeOption arg with
    | none => rw [List.filterMap_cons_none hmode]; rfl
    | some mode => rw [List.filterMap_cons_some hmode]; rfl
  · show state.ipaddrs ++ (operands (arg :: rest)).filter isIpaddress = _
    rw [hsplit, List.filter_append]
    by_cases haddress : isIpaddress arg
    · rw [if_pos haddress, List.filter_cons_of_pos haddress, List.append_assoc]
      rfl
    · rw [if_neg haddress, List.filter_cons_of_neg haddress]
      rfl

theorem after_limit (state : Arguments) (seconds : String) (rest : List String) :
    state.after ("--max-seconds" :: seconds :: rest) =
      Arguments.after { state with maxSeconds := number seconds } rest := by
  unfold Arguments.after
  congr 1
  show ((number seconds :: (limits rest).map number).getLast?).getD _ = _
  exact getLast?_getD_append [number seconds] _ _

theorem after_count (state : Arguments) {arg : String} (h : isNumeric arg) (rest : List String) :
    state.after (arg :: rest) = Arguments.after { state with ues := number arg } rest := by
  have hne : arg ≠ "--max-seconds" := by
    rintro rfl
    exact absurd h (by decide)
  rw [after_cons state hne, if_pos h, modeOption_of_isNumeric h, isIpaddress_of_isNumeric h]
  rfl

theorem after_mode (state : Arguments) {arg : String} {mode : SoftmodemMode}
    (h : modeOption arg = some mode) (rest : List String) :
    state.after (arg :: rest) = Arguments.after { state with softmodemMode := mode } rest := by
  have hne : arg ≠ "--max-seconds" := by
    rintro rfl
    cases h
  have hnot := not_of_modeOption h
  rw [after_cons state hne, h, hnot.1, hnot.2]
  rfl

theorem after_address (state : Arguments) {arg : String} (h : isIpaddress arg)
    (hmode : modeOption arg = none) (rest : List String) :
    state.after (arg :: rest) =
      Arguments.after { state with ipaddrs := state.ipaddrs ++ [arg] } rest := by
  have hne : arg ≠ "--max-seconds" := by
    rintro rfl
    exact absurd h (by decide)
  have hnumeric : isNumeric arg = false := by
    refine Bool.eq_false_iff.mpr ?_
    intro hnumeric
    exact Bool.eq_false_iff.mp (isIpaddress_of_isNumeric hnumeric) h
  rw [after_cons state hne, hmode, hnumeric, if_pos h]
  rfl

/-- The loop returns what the command line says, and never a UE count of zero. -/
theorem readArguments_eq {args : List String} {state final : Arguments} (hpos : 0 < state.ues)
    (h : readArguments state args = .ok final) : final = state.after args ∧ 0 < final.ues := by
  fun_induction readArguments state args with
  | case1 state =>
    obtain rfl := Except.ok.inj h
    refine ⟨?_, hpos⟩
    show state = { state with ipaddrs := state.ipaddrs ++ [] }
    rw [List.append_nil]
  | case2 => cases h
  | case3 state arg rest _ hnumeric ih =>
    cases hues : stoi arg with
    | error e =>
      rw [hues] at h
      cases h
    | ok ues =>
      rw [hues] at h
      change (if ues < 1 then die "invalid number of UEs" else _) = _ at h
      split_ifs at h with hzero
      · cases h
      · have hread := ih ues (Nat.not_lt.mp hzero) h
        rw [after_count state hnumeric, ← stoi_ok hues]
        exact hread
  | case4 state rest _ _ ih =>
    rw [after_mode state (show modeOption "--lte" = some .lte from rfl)]
    exact ih hpos h
  | case5 state rest _ _ _ ih =>
    rw [after_mode state (show modeOption "--nr" = some .nr from rfl)]
    exact ih hpos h
  | case6 state rest _ _ _ _ ih =>
    rw [after_mode state (show modeOption "--nsa" = some .nsa from rfl)]
    exact ih hpos h
  | case7 => cases h
  | case8 state seconds rest _ _ _ _ _ _ ih =>
    cases hseconds : stoi seconds with
    | error e =>
      rw [hseconds] at h
      cases h
    | ok maxSeconds =>
      rw [hseconds] at h
      rw [after_limit, ← stoi_ok hseconds]
      exact ih maxSeconds hpos h
  | case9 => cases h
  | case10 state arg rest _ _ hlte hnr hnsa _ haddress ih =>
    have hmode : modeOption arg = none := by
      unfold modeOption
      rw [if_neg hlte, if_neg hnr, if_neg hnsa]
    rw [after_address state haddress hmode]
    exact ih hpos h
  | case11 => cases h

end MultiUeProxy.Startup.CommandLine
