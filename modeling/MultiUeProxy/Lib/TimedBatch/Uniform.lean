import MultiUeProxy.Lib.TimedBatch.Scan

/-!
# Batches of one time

`batch` is what a family of queues delivers when the messages taken from each queue are cut to a
cap. The batch can mix two times, because a message with the time `unset` leaves the reference
unset. `uniform_iff` characterizes the families whose batch has one time only by a condition on
the leader, `UniformAt`.
-/

set_option autoImplicit false
set_option relaxedAutoImplicit false

namespace MultiUeProxy.Lib.TimedBatch

variable {μ τ : Type}

namespace Clock

variable [DecidableEq τ] {clock : Clock μ τ}

/-- What is delivered: of each queue, at most `cap` of the messages taken. -/
def batch (clock : Clock μ τ) (cap : ℕ) (xss : List (List μ)) : List (List μ) :=
  (clock.scanAll clock.unset xss).map fun s ↦ s.taken.take cap

/-- All delivered messages have the same time. -/
def Uniform (clock : Clock μ τ) (cap : ℕ) (xss : List (List μ)) : Prop :=
  ∀ m ∈ (clock.batch cap xss).flatten, ∀ m' ∈ (clock.batch cap xss).flatten,
    clock.time m = clock.time m'

/-- The condition on a leader for a uniform batch: no readable message in front of it, or its time
is stale, or so many readable messages in front of it in its own queue that the cap keeps it out,
while no later queue starts with its time. -/
def UniformAt (cap : ℕ) {xss : List (List μ)} (L : Leader clock xss) : Prop :=
  (∀ m ∈ L.before.flatten ++ L.front, clock.time m = none) ∨
  clock.stale L.time = true ∨
  (cap ≤ (L.front.filterMap clock.time).length ∧
    ∀ xs ∈ L.after, (xs.filterMap clock.time).head? ≠ some L.time)

theorem batch_of_leader (cap : ℕ) {xss : List (List μ)} (L : Leader clock xss) :
    clock.batch cap xss = L.before.map (fun xs ↦ (xs.filter clock.fresh).take cap) ++
      (L.front.filter clock.fresh ++ (clock.scan L.time (L.leader :: L.behind)).taken).take cap ::
        L.after.map fun xs ↦ (clock.scan L.time xs).taken.take cap := by
  unfold batch
  rw [scanAll_of_leader L, List.map_append, List.map_map, List.map_cons, List.map_map]
  rfl

theorem mem_batch_of_leader {cap : ℕ} {xss : List (List μ)} (L : Leader clock xss) {m : μ} :
    m ∈ (clock.batch cap xss).flatten ↔
      (∃ xs ∈ L.before, m ∈ (xs.filter clock.fresh).take cap) ∨
      m ∈ (L.front.filter clock.fresh ++
        (clock.scan L.time (L.leader :: L.behind)).taken).take cap ∨
      (∃ xs ∈ L.after, m ∈ (clock.scan L.time xs).taken.take cap) := by
  rw [batch_of_leader cap L]
  simp only [List.flatten_append, List.flatten_cons, List.mem_append, List.mem_flatten,
    List.mem_map, exists_exists_and_eq_and]

omit [DecidableEq τ] in
theorem Idle.time_of_fresh {xs : List μ} (hidle : clock.Idle xs) {m : μ}
    (hm : m ∈ xs.filter clock.fresh) : clock.time m = some clock.unset := by
  obtain ⟨hmem, hfresh⟩ := List.mem_filter.mp hm
  obtain ⟨t, htime, -⟩ := fresh_iff.mp hfresh
  rw [htime, hidle m hmem t htime]

omit [DecidableEq τ] in
theorem Idle.fresh_of_readable (hunset : clock.stale clock.unset = false) {xs : List μ}
    (hidle : clock.Idle xs) {m : μ} (hmem : m ∈ xs) (hread : clock.time m ≠ none) :
    clock.fresh m = true := by
  obtain ⟨t, htime⟩ := Option.ne_none_iff_exists'.mp hread
  rw [fresh_of_some htime, hidle m hmem t htime, hunset, Bool.not_false]

omit [DecidableEq τ] in
theorem Idle.filter_length (hunset : clock.stale clock.unset = false) {xs : List μ}
    (hidle : clock.Idle xs) :
    (xs.filter clock.fresh).length = (xs.filterMap clock.time).length := by
  induction xs with
  | nil => rfl
  | cons m rest ih =>
    have hrest := ih fun x hx ↦ hidle x (List.mem_cons_of_mem m hx)
    cases htime : clock.time m with
    | none =>
      rw [List.filterMap_cons_none htime,
        List.filter_cons_of_neg (by simp [fresh_of_none htime]), hrest]
    | some t =>
      have hfresh := hidle.fresh_of_readable hunset (List.mem_cons_self ..) (by simp [htime])
      rw [List.filterMap_cons_some htime, List.filter_cons_of_pos hfresh, List.length_cons,
        List.length_cons, hrest]

omit [DecidableEq τ] in
theorem head_mem_take {cap : ℕ} (hcap : 0 < cap) (m : μ) (rest : List μ) :
    m ∈ (m :: rest).take cap := by
  obtain ⟨k, rfl⟩ : ∃ k, cap = k + 1 := ⟨cap - 1, by omega⟩
  rw [List.take_succ_cons]
  exact List.mem_cons_self ..

/-- A readable message in front of the leader brings the time `unset` into the batch. -/
theorem exists_unset_delivered {cap : ℕ} (hcap : 0 < cap)
    (hunset : clock.stale clock.unset = false) {xss : List (List μ)} (L : Leader clock xss)
    {m : μ} (hm : m ∈ L.before.flatten ++ L.front) (hread : clock.time m ≠ none) :
    ∃ m' ∈ (clock.batch cap xss).flatten, clock.time m' = some clock.unset := by
  rcases List.mem_append.mp hm with hbefore | hfront
  · obtain ⟨xs, hxs, hmem⟩ := List.mem_flatten.mp hbefore
    have hidle := L.before_idle xs hxs
    have hfresh := List.mem_filter.mpr ⟨hmem, hidle.fresh_of_readable hunset hmem hread⟩
    obtain ⟨first, rest, hsplit⟩ := List.exists_cons_of_ne_nil (List.ne_nil_of_mem hfresh)
    refine ⟨first, (mem_batch_of_leader L).mpr (.inl ⟨xs, hxs, ?_⟩), ?_⟩
    · rw [hsplit]
      exact head_mem_take hcap first rest
    · exact hidle.time_of_fresh (hsplit ▸ List.mem_cons_self ..)
  · have hidle := L.front_idle
    have hfresh := List.mem_filter.mpr ⟨hfront, hidle.fresh_of_readable hunset hfront hread⟩
    obtain ⟨first, rest, hsplit⟩ := List.exists_cons_of_ne_nil (List.ne_nil_of_mem hfresh)
    refine ⟨first, (mem_batch_of_leader L).mpr (.inr (.inl ?_)), ?_⟩
    · rw [hsplit, List.cons_append]
      exact head_mem_take hcap first _
    · exact hidle.time_of_fresh (hsplit ▸ List.mem_cons_self ..)

/-- A fresh leader that the cap lets through, or a later queue that starts with its time, brings
that time into the batch. -/
theorem exists_leader_time_delivered {cap : ℕ} (hcap : 0 < cap)
    (hunset : clock.stale clock.unset = false) {xss : List (List μ)} (L : Leader clock xss)
    (hfresh : clock.stale L.time = false)
    (hreach : (L.front.filterMap clock.time).length < cap ∨
      ∃ xs ∈ L.after, (xs.filterMap clock.time).head? = some L.time) :
    ∃ m ∈ (clock.batch cap xss).flatten, clock.time m = some L.time := by
  rcases hreach with hlength | ⟨xs, hxs, hhead⟩
  · refine ⟨L.leader, (mem_batch_of_leader L).mpr (.inr (.inl ?_)), L.time_eq⟩
    obtain ⟨k, hk⟩ : ∃ k, cap - (L.front.filter clock.fresh).length = k + 1 :=
      ⟨cap - (L.front.filter clock.fresh).length - 1, by
        rw [L.front_idle.filter_length hunset]; omega⟩
    have hleader : clock.fresh L.leader = true := by
      rw [fresh_of_some L.time_eq, hfresh, Bool.not_false]
    rw [List.take_append, hk, scan_consume L.time_eq (.inr rfl)]
    simp [Scan.prepend, hleader]
  · have htaken : (clock.scan L.time xs).taken ≠ [] := fun hnil ↦
      (taken_eq_nil_iff L.time_ne hfresh xs).mp hnil hhead
    obtain ⟨first, rest, hsplit⟩ := List.exists_cons_of_ne_nil htaken
    refine ⟨first, (mem_batch_of_leader L).mpr (.inr (.inr ⟨xs, hxs, ?_⟩)), ?_⟩
    · rw [hsplit]
      exact head_mem_take hcap first rest
    · exact (mem_taken_of_set L.time_ne (hsplit ▸ List.mem_cons_self ..)).1

/-- If the condition holds, then the leader's time is alone in the batch or absent from it. -/
theorem uniform_of_uniformAt {cap : ℕ} (hunset : clock.stale clock.unset = false)
    {xss : List (List μ)} (L : Leader clock xss) (h : UniformAt cap L) :
    clock.Uniform cap xss := by
  suffices hall : ∃ t, ∀ m ∈ (clock.batch cap xss).flatten, clock.time m = some t by
    obtain ⟨t, ht⟩ := hall
    intro m hm m' hm'
    rw [ht m hm, ht m' hm']
  have hbefore : ∀ xs ∈ L.before, ∀ m ∈ (xs.filter clock.fresh).take cap,
      clock.time m = some clock.unset := fun xs hxs m hm ↦
    (L.before_idle xs hxs).time_of_fresh (List.mem_of_mem_take hm)
  rcases h with hnone | hlate
  · -- nothing readable in front: only messages of the leader's time are taken
    have hunread : ∀ xs : List μ, (∀ m ∈ xs, clock.time m = none) →
        xs.filter clock.fresh = [] := fun xs hxs ↦
      List.filter_eq_nil_iff.mpr fun m hm ↦ by simp [fresh_of_none (hxs m hm)]
    refine ⟨L.time, fun m hm ↦ ?_⟩
    rcases (mem_batch_of_leader L).mp hm with ⟨xs, hxs, hm⟩ | hm | ⟨xs, -, hm⟩
    · rw [hunread xs fun x hx ↦ hnone x (List.mem_append_left _
        (List.mem_flatten.mpr ⟨xs, hxs, hx⟩))] at hm
      simp at hm
    · rw [hunread L.front fun x hx ↦ hnone x (List.mem_append_right _ hx)] at hm
      exact (mem_taken_of_set L.time_ne (List.mem_of_mem_take hm)).1
    · exact (mem_taken_of_set L.time_ne (List.mem_of_mem_take hm)).1
  · -- the leader's time is stale, or the cap is used up in front of it: only `unset` is left
    have hmiddle : ∀ m ∈ (L.front.filter clock.fresh ++
        (clock.scan L.time (L.leader :: L.behind)).taken).take cap,
        m ∈ L.front.filter clock.fresh := by
      intro m hm
      rcases hlate with hstale | ⟨hcap, -⟩
      · rw [taken_of_stale L.time_ne hstale, List.append_nil] at hm
        exact List.mem_of_mem_take hm
      · rw [List.take_append_of_le_length (by rwa [L.front_idle.filter_length hunset])] at hm
        exact List.mem_of_mem_take hm
    have hafter : ∀ xs ∈ L.after, (clock.scan L.time xs).taken = [] := by
      intro xs hxs
      cases hfresh : clock.stale L.time with
      | true => exact taken_of_stale L.time_ne hfresh xs
      | false =>
        rcases hlate with hstale | ⟨-, hlater⟩
        · rw [hstale] at hfresh
          cases hfresh
        · exact (taken_eq_nil_iff L.time_ne hfresh xs).mpr (hlater xs hxs)
    refine ⟨clock.unset, fun m hm ↦ ?_⟩
    rcases (mem_batch_of_leader L).mp hm with ⟨xs, hxs, hm⟩ | hm | ⟨xs, hxs, hm⟩
    · exact hbefore xs hxs m hm
    · exact L.front_idle.time_of_fresh (hmiddle m hm)
    · rw [hafter xs hxs, List.take_nil] at hm
      cases hm

/-- Without a leader, everything in the batch has the time `unset`. -/
theorem time_of_idle_batch {cap : ℕ} {xss : List (List μ)} (hidle : ∀ xs ∈ xss, clock.Idle xs)
    {m : μ} (hm : m ∈ (clock.batch cap xss).flatten) : clock.time m = some clock.unset := by
  have hbatch : clock.batch cap xss = xss.map fun xs ↦ (xs.filter clock.fresh).take cap := by
    have hscan := scanAll_of_idle hidle []
    rw [List.append_nil] at hscan
    unfold batch
    rw [hscan, scanAll, List.append_nil, List.map_map]
    rfl
  rw [hbatch] at hm
  obtain ⟨ys, hys, hmem⟩ := List.mem_flatten.mp hm
  obtain ⟨xs, hxs, rfl⟩ := List.mem_map.mp hys
  exact (hidle xs hxs).time_of_fresh (List.mem_of_mem_take hmem)

/-- Apart from `unset`, the batch has at most one time. -/
theorem batch_times (clock : Clock μ τ) (cap : ℕ) (xss : List (List μ)) :
    ∃ t, ∀ m ∈ (clock.batch cap xss).flatten,
      clock.time m = some clock.unset ∨ clock.time m = some t := by
  rcases idle_or_leader clock xss with hidle | hleader
  · exact ⟨clock.unset, fun m hm ↦ .inl (time_of_idle_batch hidle hm)⟩
  · obtain ⟨L⟩ := hleader
    refine ⟨L.time, fun m hm ↦ ?_⟩
    rcases (mem_batch_of_leader L).mp hm with ⟨xs, hxs, hm⟩ | hm | ⟨xs, -, hm⟩
    · exact .inl ((L.before_idle xs hxs).time_of_fresh (List.mem_of_mem_take hm))
    · rcases List.mem_append.mp (List.mem_of_mem_take hm) with hfront | htaken
      · exact .inl (L.front_idle.time_of_fresh hfront)
      · exact .inr (mem_taken_of_set L.time_ne htaken).1
    · exact .inr (mem_taken_of_set L.time_ne (List.mem_of_mem_take hm)).1

/-- The families whose batch has one time only. -/
theorem uniform_iff {cap : ℕ} (hcap : 0 < cap) (hunset : clock.stale clock.unset = false)
    (xss : List (List μ)) :
    clock.Uniform cap xss ↔ ∀ L : Leader clock xss, UniformAt cap L := by
  constructor
  · intro huniform L
    by_contra hnot
    simp only [UniformAt, not_or] at hnot
    obtain ⟨hread, hfresh, hreach⟩ := hnot
    push Not at hread hreach
    obtain ⟨m, hm, hnone⟩ := hread
    obtain ⟨early, hearly, hunsetTime⟩ := exists_unset_delivered hcap hunset L hm hnone
    obtain ⟨late, hlate, hleaderTime⟩ := exists_leader_time_delivered hcap hunset L
      (by simpa using hfresh) (by
        by_cases hlength : (L.front.filterMap clock.time).length < cap
        · exact .inl hlength
        · exact .inr (hreach (Nat.le_of_not_lt hlength)))
    have hsame := huniform early hearly late hlate
    rw [hunsetTime, hleaderTime, Option.some_inj] at hsame
    exact L.time_ne hsame.symm
  · intro hall
    rcases idle_or_leader clock xss with hidle | hleader
    · intro m hm m' hm'
      rw [time_of_idle_batch hidle hm, time_of_idle_batch hidle hm']
    · obtain ⟨L⟩ := hleader
      exact uniform_of_uniformAt hunset L (hall L)

end Clock

end MultiUeProxy.Lib.TimedBatch
