import Mathlib.Data.List.Basic
import Mathlib.Data.List.Forall2
import Mathlib.Data.List.TakeWhile
import Mathlib.Tactic.SplitIfs

/-!
# Taking one batch of equal times from a family of queues

A `Clock` reads a time off a message, or fails to, and says which times are stale. One value of
the time type, `unset`, stands for "no reference time yet". `scan` takes messages from the front
of one queue: it passes over unreadable messages, adopts the first time it sees as the reference
while the reference is `unset`, stops in front of the first message of another time, and drops
stale messages instead of delivering them. `scanAll` scans the queues of a family in order and
hands the reference on.

The value `unset` is an ordinary time too. A message that carries it is taken and leaves the
reference as unset as it was, so that the batch can mix two times. The first message with another
time, the *leader*, therefore decides what a scan does: `scanAll_of_leader` gives the whole result
in terms of it. What holds of every scan is that it consumes a prefix of each queue
(`scanAll_consumes`) and at least one message of a family that has one (`exists_consumed`).
-/

set_option autoImplicit false
set_option relaxedAutoImplicit false

namespace MultiUeProxy.Lib.TimedBatch

/-- How a scan reads messages of type `μ` with times of type `τ`. -/
structure Clock (μ τ : Type) where
  time : μ → Option τ
  stale : τ → Bool
  unset : τ

/-- What the scan of one queue takes for delivery, what it leaves in the queue and the reference
time it ends with. -/
structure Scan (μ τ : Type) where
  taken : List μ
  left : List μ
  reference : τ

variable {μ ν τ : Type}

/-- Every queue of a family is related to the entry at its place. -/
theorem exists_related {R : μ → ν → Prop} {xs : List μ} {ys : List ν} (h : List.Forall₂ R xs ys)
    {x : μ} (hx : x ∈ xs) : ∃ y ∈ ys, R x y := by
  induction h with
  | nil => cases hx
  | @cons _ y _ _ hfirst _ ih =>
    rcases List.mem_cons.mp hx with rfl | hmem
    · exact ⟨y, List.mem_cons_self .., hfirst⟩
    · obtain ⟨z, hz, hrelated⟩ := ih hmem
      exact ⟨z, List.mem_cons_of_mem y hz, hrelated⟩

/-- Messages taken before the others of a scan. -/
def Scan.prepend (first : List μ) (s : Scan μ τ) : Scan μ τ :=
  ⟨first ++ s.taken, s.left, s.reference⟩

/-- The scan of a queue, read through a map of the messages. -/
def Scan.map (f : ν → μ) (s : Scan ν τ) : Scan μ τ :=
  ⟨s.taken.map f, s.left.map f, s.reference⟩

namespace Clock

/-- The message has a time and it is not stale. -/
def fresh (clock : Clock μ τ) (m : μ) : Bool :=
  match clock.time m with
  | none => false
  | some t => !clock.stale t

/-- The clock for messages that carry a message of the given clock. -/
def comap (clock : Clock μ τ) (f : ν → μ) : Clock ν τ where
  time := fun m ↦ clock.time (f m)
  stale := clock.stale
  unset := clock.unset

variable [DecidableEq τ]

/-- Scans one queue. -/
def scan (clock : Clock μ τ) : τ → List μ → Scan μ τ
  | reference, [] => ⟨[], [], reference⟩
  | reference, m :: rest =>
    match clock.time m with
    | none => clock.scan reference rest
    | some t =>
      let reference := if reference = clock.unset then t else reference
      if reference ≠ t then
        ⟨[], m :: rest, reference⟩
      else if clock.stale t then
        clock.scan reference rest
      else
        (clock.scan reference rest).prepend [m]

/-- Scans the queues of a family in order. -/
def scanAll (clock : Clock μ τ) : τ → List (List μ) → List (Scan μ τ)
  | _, [] => []
  | reference, xs :: rest =>
    clock.scan reference xs :: clock.scanAll (clock.scan reference xs).reference rest

/-- The leading messages that a scan with a fixed reference consumes. -/
def run (clock : Clock μ τ) (t : τ) (xs : List μ) : List μ :=
  xs.takeWhile fun m ↦ clock.time m = none ∨ clock.time m = some t

/-- No message has a time other than `unset`. -/
def Idle (clock : Clock μ τ) (xs : List μ) : Prop :=
  ∀ m ∈ xs, ∀ t, clock.time m = some t → t = clock.unset

variable {clock : Clock μ τ}

omit [DecidableEq τ] in
theorem fresh_of_none {m : μ} (h : clock.time m = none) : clock.fresh m = false := by
  simp [fresh, h]

omit [DecidableEq τ] in
theorem fresh_of_some {m : μ} {t : τ} (h : clock.time m = some t) :
    clock.fresh m = !clock.stale t := by
  simp [fresh, h]

omit [DecidableEq τ] in
theorem fresh_iff {m : μ} :
    clock.fresh m = true ↔ ∃ t, clock.time m = some t ∧ clock.stale t = false := by
  cases h : clock.time m with
  | none => simp [fresh_of_none h]
  | some t => simp [fresh_of_some h]

/-! ### What one step of a scan does -/

@[simp] theorem scan_nil (reference : τ) : clock.scan reference [] = ⟨[], [], reference⟩ := rfl

theorem scan_unreadable {m : μ} (h : clock.time m = none) (reference : τ) (rest : List μ) :
    clock.scan reference (m :: rest) = clock.scan reference rest := by
  simp [scan, h]

theorem scan_other {m : μ} {t reference : τ} (h : clock.time m = some t)
    (hset : reference ≠ clock.unset) (hother : reference ≠ t) (rest : List μ) :
    clock.scan reference (m :: rest) = ⟨[], m :: rest, reference⟩ := by
  simp [scan, h, hset, hother]

theorem scan_consume {m : μ} {t reference : τ} (h : clock.time m = some t)
    (hmatch : reference = clock.unset ∨ reference = t) (rest : List μ) :
    clock.scan reference (m :: rest) = (clock.scan t rest).prepend ([m].filter clock.fresh) := by
  have href : (if reference = clock.unset then t else reference) = t := by
    rcases hmatch with hunset | rfl
    · rw [if_pos hunset]
    · split_ifs <;> rfl
  cases hstale : clock.stale t <;> simp [scan, h, href, fresh_of_some h, hstale, Scan.prepend]

/-- The three things a scan can do with the first message of a queue. -/
theorem scan_cons_cases (clock : Clock μ τ) (reference : τ) (m : μ) (rest : List μ) :
    (clock.time m = none ∧
      clock.scan reference (m :: rest) = clock.scan reference rest) ∨
    (∃ t, clock.time m = some t ∧ reference ≠ clock.unset ∧ reference ≠ t ∧
      clock.scan reference (m :: rest) = ⟨[], m :: rest, reference⟩) ∨
    (∃ t, clock.time m = some t ∧ (reference = clock.unset ∨ reference = t) ∧
      clock.scan reference (m :: rest) =
        (clock.scan t rest).prepend ([m].filter clock.fresh)) := by
  cases h : clock.time m with
  | none => exact .inl ⟨rfl, scan_unreadable h reference rest⟩
  | some t =>
    by_cases hmatch : reference = clock.unset ∨ reference = t
    · exact .inr (.inr ⟨t, rfl, hmatch, scan_consume h hmatch rest⟩)
    · obtain ⟨hset, hother⟩ := not_or.mp hmatch
      exact .inr (.inl ⟨t, rfl, hset, hother, scan_other h hset hother rest⟩)

/-- A scan consumes a prefix of the queue and takes the fresh messages of it. -/
theorem scan_consumes (clock : Clock μ τ) (reference : τ) (xs : List μ) :
    ∃ consumed, xs = consumed ++ (clock.scan reference xs).left ∧
      (clock.scan reference xs).taken = consumed.filter clock.fresh := by
  induction xs generalizing reference with
  | nil => exact ⟨[], by simp⟩
  | cons m rest ih =>
    rcases scan_cons_cases clock reference m rest with
      ⟨htime, hscan⟩ | ⟨t, -, -, -, hscan⟩ | ⟨t, -, -, hscan⟩
    · obtain ⟨consumed, hrest, htaken⟩ := ih reference
      refine ⟨m :: consumed, ?_, ?_⟩
      · rw [hscan, List.cons_append, ← hrest]
      · rw [hscan, htaken, List.filter_cons_of_neg (by simp [fresh_of_none htime])]
    · exact ⟨[], by simp [hscan]⟩
    · obtain ⟨consumed, hrest, htaken⟩ := ih t
      refine ⟨m :: consumed, ?_, ?_⟩
      · rw [hscan, Scan.prepend, List.cons_append, ← hrest]
      · rw [hscan, Scan.prepend, htaken, ← List.filter_append, List.singleton_append]

/-- A scan through a map is the scan of the mapped queue. -/
theorem scan_map (clock : Clock μ τ) (f : ν → μ) (reference : τ) (xs : List ν) :
    clock.scan reference (xs.map f) = ((clock.comap f).scan reference xs).map f := by
  have hfresh : ∀ x, (clock.comap f).fresh x = clock.fresh (f x) := fun _ ↦ rfl
  induction xs generalizing reference with
  | nil => rfl
  | cons x rest ih =>
    rw [List.map_cons]
    rcases scan_cons_cases (clock.comap f) reference x rest with
      ⟨htime, hscan⟩ | ⟨t, htime, hset, hother, hscan⟩ | ⟨t, htime, hmatch, hscan⟩
    · have hread : clock.time (f x) = none := htime
      rw [hscan, scan_unreadable hread, ih]
    · have hread : clock.time (f x) = some t := htime
      rw [hscan, scan_other hread hset hother]
      rfl
    · have hread : clock.time (f x) = some t := htime
      rw [hscan, scan_consume hread hmatch, ih]
      by_cases hx : clock.fresh (f x) = true <;> simp [Scan.prepend, Scan.map, hfresh, hx]

theorem scanAll_map (clock : Clock μ τ) (f : ν → μ) (reference : τ) (xss : List (List ν)) :
    clock.scanAll reference (xss.map (List.map f)) =
      ((clock.comap f).scanAll reference xss).map (Scan.map f) := by
  induction xss generalizing reference with
  | nil => rfl
  | cons xs rest ih => rw [List.map_cons, scanAll, scan_map, ih, scanAll, List.map_cons]; rfl

@[simp] theorem scanAll_length (clock : Clock μ τ) (reference : τ) (xss : List (List μ)) :
    (clock.scanAll reference xss).length = xss.length := by
  induction xss generalizing reference with
  | nil => rfl
  | cons xs rest ih => rw [scanAll, List.length_cons, ih, List.length_cons]

/-- A scan of a family consumes a prefix of each queue and takes the fresh messages of it. -/
theorem scanAll_consumes (clock : Clock μ τ) (reference : τ) (xss : List (List μ)) :
    ∃ consumed : List (List μ), List.Forall₂ (· <+: ·) consumed xss ∧
      xss = List.zipWith (· ++ ·) consumed ((clock.scanAll reference xss).map Scan.left) ∧
      (clock.scanAll reference xss).map Scan.taken = consumed.map (List.filter clock.fresh) := by
  induction xss generalizing reference with
  | nil => exact ⟨[], .nil, rfl, rfl⟩
  | cons xs rest ih =>
    obtain ⟨first, hfirst, hfirstTaken⟩ := scan_consumes clock reference xs
    obtain ⟨consumed, hprefix, hsplit, htaken⟩ := ih (clock.scan reference xs).reference
    refine ⟨first :: consumed, .cons ⟨_, hfirst.symm⟩ hprefix, ?_, ?_⟩
    · unfold scanAll
      rw [List.map_cons, List.zipWith_cons_cons, ← hfirst, ← hsplit]
    · unfold scanAll
      rw [List.map_cons, List.map_cons, hfirstTaken, htaken]

/-- What is taken and what is left make up the fresh messages of each queue. -/
theorem taken_append_left (clock : Clock μ τ) (reference : τ) (xss : List (List μ)) :
    (clock.scanAll reference xss).map (fun s ↦ s.taken ++ s.left.filter clock.fresh) =
      xss.map (List.filter clock.fresh) := by
  induction xss generalizing reference with
  | nil => rfl
  | cons xs rest ih =>
    obtain ⟨consumed, hsplit, htaken⟩ := scan_consumes clock reference xs
    unfold scanAll
    rw [List.map_cons, ih, List.map_cons, htaken, ← List.filter_append, ← hsplit]

/-- A scan leaves nothing that was not in a queue. -/
theorem mem_of_mem_left {reference : τ} {xss : List (List μ)} {ys : List μ} {m : μ}
    (hys : ys ∈ (clock.scanAll reference xss).map Scan.left) (hm : m ∈ ys) :
    ∃ xs ∈ xss, m ∈ xs := by
  induction xss generalizing reference with
  | nil => simp [scanAll] at hys
  | cons xs rest ih =>
    unfold scanAll at hys
    rw [List.map_cons] at hys
    rcases List.mem_cons.mp hys with rfl | hys
    · obtain ⟨consumed, hsplit, -⟩ := scan_consumes clock reference xs
      exact ⟨xs, List.mem_cons_self .., hsplit ▸ List.mem_append_right consumed hm⟩
    · obtain ⟨zs, hzs, hmem⟩ := ih hys
      exact ⟨zs, List.mem_cons_of_mem xs hzs, hmem⟩

theorem length_flatten_zipWith_le (yss zss : List (List μ)) :
    (List.zipWith (· ++ ·) yss zss).flatten.length ≤ yss.flatten.length + zss.flatten.length := by
  induction yss generalizing zss with
  | nil => simp
  | cons ys yss ih =>
    cases zss with
    | nil => simp
    | cons zs zss =>
      simp only [List.zipWith_cons_cons, List.flatten_cons, List.length_append]
      have := ih zss
      omega

theorem left_length_le (clock : Clock μ τ) (reference : τ) (xss : List (List μ)) :
    (((clock.scanAll reference xss).map Scan.left).flatten).length ≤ xss.flatten.length := by
  induction xss generalizing reference with
  | nil => rfl
  | cons xs rest ih =>
    obtain ⟨consumed, hsplit, -⟩ := scan_consumes clock reference xs
    have hlength := congrArg List.length hsplit
    rw [List.length_append] at hlength
    simp only [scanAll, List.map_cons, List.flatten_cons, List.length_append]
    have := ih (clock.scan reference xs).reference
    omega

/-- A family with a message loses at least one to a scan without a reference. -/
theorem exists_consumed {xss : List (List μ)} (h : ∃ xs ∈ xss, xs ≠ []) :
    (((clock.scanAll clock.unset xss).map Scan.left).flatten).length < xss.flatten.length := by
  induction xss with
  | nil =>
    obtain ⟨xs, hxs, -⟩ := h
    cases hxs
  | cons xs rest ih =>
    cases xs with
    | nil =>
      obtain ⟨ys, hys, hne⟩ := h
      rcases List.mem_cons.mp hys with rfl | hys
      · exact absurd rfl hne
      · simpa [scanAll] using ih ⟨ys, hys, hne⟩
    | cons m tail =>
      have hscan : ∃ reference, (clock.scan clock.unset (m :: tail)).left =
          (clock.scan reference tail).left := by
        rcases scan_cons_cases clock clock.unset m tail with
          ⟨-, hscan⟩ | ⟨t, -, hset, -, -⟩ | ⟨t, -, -, hscan⟩
        · exact ⟨clock.unset, by rw [hscan]⟩
        · exact absurd rfl hset
        · exact ⟨t, by rw [hscan]; rfl⟩
      obtain ⟨reference, hleft⟩ := hscan
      obtain ⟨consumed, hsplit, -⟩ := scan_consumes clock reference tail
      have hlength := congrArg List.length hsplit
      rw [List.length_append] at hlength
      have := left_length_le clock (clock.scan clock.unset (m :: tail)).reference rest
      simp only [scanAll, List.map_cons, List.flatten_cons, List.length_append, hleft,
        List.length_cons]
      omega

/-- The consumed prefixes of a family with a message are not all empty. -/
theorem exists_consumed_ne_nil {xss consumed : List (List μ)} (h : ∃ xs ∈ xss, xs ≠ [])
    (hsplit : xss = List.zipWith (· ++ ·) consumed
      ((clock.scanAll clock.unset xss).map Scan.left)) : ∃ ms ∈ consumed, ms ≠ [] := by
  by_contra hnone
  push Not at hnone
  have hless : (((clock.scanAll clock.unset xss).map Scan.left).flatten).length <
      xss.flatten.length := exists_consumed h
  have hle := length_flatten_zipWith_le consumed ((clock.scanAll clock.unset xss).map Scan.left)
  rw [← hsplit, List.flatten_eq_nil_iff.mpr hnone, List.length_nil] at hle
  omega

/-! ### Scans with a reference -/

theorem run_unreadable {m : μ} {t : τ} (h : clock.time m = none) (rest : List μ) :
    clock.run t (m :: rest) = m :: clock.run t rest := by
  simp [run, h]

theorem run_same {m : μ} {t : τ} (h : clock.time m = some t) (rest : List μ) :
    clock.run t (m :: rest) = m :: clock.run t rest := by
  simp [run, h]

theorem run_other {m : μ} {t u : τ} (h : clock.time m = some u) (hother : u ≠ t)
    (rest : List μ) : clock.run t (m :: rest) = [] := by
  simp [run, h, hother]

/-- With a reference, a scan takes the fresh messages of the leading run. -/
theorem scan_of_set {t : τ} (hset : t ≠ clock.unset) (xs : List μ) :
    (clock.scan t xs).taken = (clock.run t xs).filter clock.fresh ∧
      (clock.scan t xs).reference = t := by
  induction xs with
  | nil => exact ⟨rfl, rfl⟩
  | cons m rest ih =>
    rcases scan_cons_cases clock t m rest with
      ⟨htime, hscan⟩ | ⟨u, htime, -, hother, hscan⟩ | ⟨u, htime, hmatch, hscan⟩
    · rw [hscan, run_unreadable htime, List.filter_cons_of_neg (by simp [fresh_of_none htime])]
      exact ih
    · rw [hscan, run_other htime (Ne.symm hother)]
      exact ⟨rfl, rfl⟩
    · obtain rfl : t = u := hmatch.resolve_left hset
      rw [hscan, run_same htime, Scan.prepend]
      refine ⟨?_, ih.2⟩
      rw [ih.1, ← List.filter_append, List.singleton_append]

/-- With a reference, the scans of a family do not depend on each other. -/
theorem scanAll_of_set {t : τ} (hset : t ≠ clock.unset) (xss : List (List μ)) :
    clock.scanAll t xss = xss.map (clock.scan t) := by
  induction xss with
  | nil => rfl
  | cons xs rest ih => rw [scanAll, (scan_of_set hset xs).2, ih, List.map_cons]

/-! ### Scans without a reference -/

/-- An idle queue is consumed and leaves the reference unset. -/
theorem scan_of_idle {xs : List μ} (hidle : clock.Idle xs) (ys : List μ) :
    clock.scan clock.unset (xs ++ ys) =
      (clock.scan clock.unset ys).prepend (xs.filter clock.fresh) := by
  induction xs with
  | nil => rfl
  | cons m rest ih =>
    have hrest := ih fun x hx ↦ hidle x (List.mem_cons_of_mem m hx)
    rw [List.cons_append]
    cases htime : clock.time m with
    | none =>
      rw [scan_unreadable htime, hrest,
        List.filter_cons_of_neg (by simp [fresh_of_none htime])]
    | some t =>
      obtain rfl : t = clock.unset := hidle m (List.mem_cons_self ..) t htime
      rw [scan_consume htime (.inl rfl), hrest]
      simp only [Scan.prepend, ← List.append_assoc, ← List.filter_append, List.singleton_append]

/-- The scan of an idle queue. -/
def idleScan (clock : Clock μ τ) (xs : List μ) : Scan μ τ :=
  ⟨xs.filter clock.fresh, [], clock.unset⟩

theorem scan_of_idle_nil {xs : List μ} (hidle : clock.Idle xs) :
    clock.scan clock.unset xs = clock.idleScan xs := by
  have hscan := scan_of_idle hidle []
  rw [List.append_nil] at hscan
  rw [hscan, scan_nil, Scan.prepend, List.append_nil, idleScan]

theorem scanAll_of_idle {before : List (List μ)} (hidle : ∀ xs ∈ before, clock.Idle xs)
    (rest : List (List μ)) :
    clock.scanAll clock.unset (before ++ rest) =
      before.map clock.idleScan ++ clock.scanAll clock.unset rest := by
  induction before with
  | nil => rfl
  | cons xs before ih =>
    have hscan := scan_of_idle_nil (hidle xs (List.mem_cons_self ..))
    rw [List.cons_append, scanAll, hscan, List.map_cons, List.cons_append]
    exact congrArg _ (ih fun ys hys ↦ hidle ys (List.mem_cons_of_mem xs hys))

/-! ### The leader -/

/-- A family of queues, cut at its leader: the first message with a time other than `unset`. -/
structure Leader (clock : Clock μ τ) (xss : List (List μ)) where
  before : List (List μ)
  front : List μ
  leader : μ
  behind : List μ
  after : List (List μ)
  time : τ
  split : xss = before ++ (front ++ leader :: behind) :: after
  before_idle : ∀ xs ∈ before, clock.Idle xs
  front_idle : clock.Idle front
  time_eq : clock.time leader = some time
  time_ne : time ≠ clock.unset

omit [DecidableEq τ] in
/-- A queue is idle, or it has a first message with a time other than `unset`. -/
theorem idle_or_split (clock : Clock μ τ) (xs : List μ) :
    clock.Idle xs ∨ ∃ front m behind t, xs = front ++ m :: behind ∧ clock.Idle front ∧
      clock.time m = some t ∧ t ≠ clock.unset := by
  induction xs with
  | nil => exact .inl fun m hm ↦ absurd hm List.not_mem_nil
  | cons m rest ih =>
    by_cases hidle : ∀ t, clock.time m = some t → t = clock.unset
    · have hcons : ∀ {ys : List μ}, clock.Idle ys → clock.Idle (m :: ys) := fun hys x hx ↦ by
        rcases List.mem_cons.mp hx with rfl | hx
        · exact hidle
        · exact hys x hx
      rcases ih with hrest | ⟨front, x, behind, t, rfl, hfront, htime, hne⟩
      · exact .inl (hcons hrest)
      · exact .inr ⟨m :: front, x, behind, t, rfl, hcons hfront, htime, hne⟩
    · push Not at hidle
      obtain ⟨t, htime, hne⟩ := hidle
      exact .inr ⟨[], m, rest, t, rfl, fun x hx ↦ absurd hx List.not_mem_nil, htime, hne⟩

omit [DecidableEq τ] in
theorem idle_or_leader (clock : Clock μ τ) (xss : List (List μ)) :
    (∀ xs ∈ xss, clock.Idle xs) ∨ Nonempty (Leader clock xss) := by
  induction xss with
  | nil => exact .inl fun xs hxs ↦ absurd hxs List.not_mem_nil
  | cons xs rest ih =>
    rcases idle_or_split clock xs with hidle | ⟨front, m, behind, t, rfl, hfront, htime, hne⟩
    · have hcons : ∀ {yss : List (List μ)}, (∀ ys ∈ yss, clock.Idle ys) →
          ∀ ys ∈ xs :: yss, clock.Idle ys := fun hyss ys hys ↦ by
        rcases List.mem_cons.mp hys with rfl | hys
        · exact hidle
        · exact hyss ys hys
      rcases ih with hrest | hleader
      · exact .inl (hcons hrest)
      · obtain ⟨L⟩ := hleader
        exact .inr ⟨xs :: L.before, L.front, L.leader, L.behind, L.after, L.time,
          congrArg (xs :: ·) L.split, hcons L.before_idle, L.front_idle, L.time_eq, L.time_ne⟩
    · exact .inr ⟨[], front, m, behind, rest, t, rfl,
        fun ys hys ↦ absurd hys List.not_mem_nil, hfront, htime, hne⟩

/-- The result of a whole scan, in terms of the leader. -/
theorem scanAll_of_leader {xss : List (List μ)} (L : Leader clock xss) :
    clock.scanAll clock.unset xss = L.before.map clock.idleScan ++
      (clock.scan L.time (L.leader :: L.behind)).prepend (L.front.filter clock.fresh) ::
        L.after.map (clock.scan L.time) := by
  have hleader : clock.scan clock.unset (L.leader :: L.behind) =
      clock.scan L.time (L.leader :: L.behind) := by
    rw [scan_consume L.time_eq (.inl rfl), scan_consume L.time_eq (.inr rfl)]
  have hreference : ((clock.scan L.time (L.leader :: L.behind)).prepend
      (L.front.filter clock.fresh)).reference = L.time := (scan_of_set L.time_ne _).2
  refine (congrArg (clock.scanAll clock.unset) L.split).trans ?_
  rw [scanAll_of_idle L.before_idle, scanAll, scan_of_idle L.front_idle, hleader,
    hreference, scanAll_of_set L.time_ne]

/-! ### What a scan with a reference delivers -/

theorem mem_taken_of_set {t : τ} (hset : t ≠ clock.unset) {xs : List μ} {m : μ}
    (hm : m ∈ (clock.scan t xs).taken) : clock.time m = some t ∧ clock.stale t = false := by
  rw [(scan_of_set hset xs).1] at hm
  obtain ⟨hrun, hfresh⟩ := List.mem_filter.mp hm
  obtain ⟨u, htime, hstale⟩ := fresh_iff.mp hfresh
  have hmatch := List.mem_takeWhile_imp hrun
  obtain rfl : u = t := by simpa [htime] using hmatch
  exact ⟨htime, hstale⟩

/-- With a stale reference nothing is taken. -/
theorem taken_of_stale {t : τ} (hset : t ≠ clock.unset) (hstale : clock.stale t = true)
    (xs : List μ) : (clock.scan t xs).taken = [] := by
  refine List.eq_nil_iff_forall_not_mem.mpr fun m hm ↦ ?_
  rw [(mem_taken_of_set hset hm).2] at hstale
  cases hstale

/-- With a fresh reference something is taken exactly when the first time of the queue is the
reference. -/
theorem taken_eq_nil_iff {t : τ} (hset : t ≠ clock.unset) (hfresh : clock.stale t = false)
    (xs : List μ) :
    (clock.scan t xs).taken = [] ↔ (xs.filterMap clock.time).head? ≠ some t := by
  induction xs with
  | nil => simp
  | cons m rest ih =>
    rcases scan_cons_cases clock t m rest with
      ⟨htime, hscan⟩ | ⟨u, htime, -, hother, hscan⟩ | ⟨u, htime, hmatch, hscan⟩
    · rw [hscan, ih, List.filterMap_cons_none htime]
    · rw [hscan, List.filterMap_cons_some htime]
      simp [Ne.symm hother]
    · obtain rfl : t = u := hmatch.resolve_left hset
      rw [hscan, List.filterMap_cons_some htime]
      simp [Scan.prepend, fresh_of_some htime, hfresh]

end Clock

end MultiUeProxy.Lib.TimedBatch
