import MultiUeProxy.Lib.TimedBatch.Scan

/-!
# Messages that do not change the batch

Some messages of a family are marked as extra. Extra messages are never delivered, but one that
has a time can become the leader, or stop a scan with a reference in front of a message that would
be taken. `sameTaken_iff` characterizes the families from which the same is taken with and without
the extra messages by a condition on the leader, `HarmlessAt`.
-/

set_option autoImplicit false
set_option relaxedAutoImplicit false

namespace MultiUeProxy.Lib.TimedBatch

variable {μ τ : Type}

namespace Clock

variable [DecidableEq τ] {clock : Clock μ τ}

section Extras

variable (extra : μ → Bool)

/-- The queue without its extra messages. -/
def own (xs : List μ) : List μ := xs.filter fun m ↦ !extra m

/-- No extra message of another time stands in the leading run of a queue in front of an own
message with the time `t`: behind such a message, the first own time is not `t`. -/
def Unhindered (clock : Clock μ τ) (t : τ) (xs : List μ) : Prop :=
  ∀ pre e post, xs = pre ++ e :: post → extra e = true → clock.time e ≠ none →
    (∀ m ∈ own extra pre, ∀ u, clock.time m = some u → u = t) →
      ((own extra post).filterMap clock.time).head? ≠ some t

/-- The condition on a leader for the extra messages to make no difference. An extra leader makes
none if the first own time behind it is stale. An own leader is harmless when it is stale;
otherwise its own queue behind it and the later queues have to be unhindered. -/
def HarmlessAt {xss : List (List μ)} (L : Leader clock xss) : Prop :=
  if extra L.leader then
    ∀ t, ((own extra (L.behind ++ L.after.flatten)).filterMap clock.time).head? = some t →
      clock.stale t = true
  else
    clock.stale L.time = true ∨
      ∀ xs ∈ L.behind :: L.after, Unhindered extra clock L.time xs

/-- The scan of the family takes the same messages with and without the extra ones. -/
def SameTaken (clock : Clock μ τ) (xss : List (List μ)) : Prop :=
  (clock.scanAll clock.unset xss).map Scan.taken =
    (clock.scanAll clock.unset (xss.map (own extra))).map Scan.taken

variable {extra}

theorem own_append (xs ys : List μ) : own extra (xs ++ ys) = own extra xs ++ own extra ys :=
  List.filter_append ..

theorem own_cons_extra {m : μ} (h : extra m = true) (rest : List μ) :
    own extra (m :: rest) = own extra rest := by
  simp [own, h]

theorem own_cons_own {m : μ} (h : extra m = false) (rest : List μ) :
    own extra (m :: rest) = m :: own extra rest := by
  simp [own, h]

omit [DecidableEq τ] in
/-- Extra messages are not fresh, so a queue has the same fresh messages without them. -/
theorem filter_fresh_own (hextra : ∀ m, extra m = true → clock.fresh m = false) (xs : List μ) :
    (own extra xs).filter clock.fresh = xs.filter clock.fresh := by
  induction xs with
  | nil => rfl
  | cons m rest ih =>
    cases hm : extra m with
    | true =>
      rw [own_cons_extra hm, ih, List.filter_cons_of_neg (by simp [hextra m hm])]
    | false =>
      rw [own_cons_own hm, List.filter_cons, List.filter_cons, ih]

omit [DecidableEq τ] in
theorem Idle.own {xs : List μ} (h : clock.Idle xs) : clock.Idle (own extra xs) := fun m hm ↦
  h m (List.mem_of_mem_filter hm)

omit [DecidableEq τ] in
theorem unhindered_nil {t : τ} : Unhindered extra clock t [] := fun pre e post h ↦ by
  simp at h

omit [DecidableEq τ] in
/-- A message that is own and of the reference time, or unreadable, does not hinder. -/
theorem unhindered_cons {t : τ} {m : μ} {rest : List μ}
    (hextra : extra m = true → clock.time m = none) (hsame : ∀ u, clock.time m = some u → u = t) :
    Unhindered extra clock t (m :: rest) ↔ Unhindered extra clock t rest := by
  constructor
  · intro h pre e post hsplit he hread hpre
    refine h (m :: pre) e post (by rw [hsplit, List.cons_append]) he hread fun x hx u hu ↦ ?_
    cases hm : extra m with
    | true =>
      rw [own_cons_extra hm] at hx
      exact hpre x hx u hu
    | false =>
      rw [own_cons_own hm] at hx
      rcases List.mem_cons.mp hx with rfl | hx
      · exact hsame u hu
      · exact hpre x hx u hu
  · intro h pre e post hsplit he hread hpre
    cases pre with
    | nil =>
      obtain ⟨rfl, -⟩ := List.cons_eq_cons.mp hsplit
      exact absurd (hextra he) hread
    | cons x pre =>
      obtain ⟨rfl, hrest⟩ := List.cons_eq_cons.mp hsplit
      refine h pre e post hrest he hread fun y hy ↦ hpre y ?_
      cases hm : extra m with
      | true => rwa [own_cons_extra hm]
      | false =>
        rw [own_cons_own hm]
        exact List.mem_cons_of_mem m hy

omit [DecidableEq τ] in
/-- Behind an own message of another time, nothing matters. -/
theorem unhindered_of_own_other {t u : τ} {m : μ} (hown : extra m = false)
    (htime : clock.time m = some u) (hother : u ≠ t) (rest : List μ) :
    Unhindered extra clock t (m :: rest) := by
  intro pre e post hsplit he hread hpre
  cases pre with
  | nil =>
    obtain ⟨rfl, -⟩ := List.cons_eq_cons.mp hsplit
    rw [he] at hown
    cases hown
  | cons x pre =>
    obtain ⟨rfl, -⟩ := List.cons_eq_cons.mp hsplit
    rw [own_cons_own hown] at hpre
    exact absurd (hpre m (List.mem_cons_self ..) u htime) hother

omit [DecidableEq τ] in
/-- An extra readable message at the head hinders exactly when the first own time behind it is the
reference. -/
theorem unhindered_cons_extra {t : τ} {m : μ} (hm : extra m = true)
    (hread : clock.time m ≠ none) (rest : List μ) :
    Unhindered extra clock t (m :: rest) ↔
      ((own extra rest).filterMap clock.time).head? ≠ some t := by
  constructor
  · intro h
    exact h [] m rest rfl hm hread fun x hx ↦ by cases hx
  · intro h pre e post hsplit he _ hpre
    cases pre with
    | nil =>
      obtain ⟨rfl, rfl⟩ := List.cons_eq_cons.mp hsplit
      exact h
    | cons x pre =>
      obtain ⟨rfl, rfl⟩ := List.cons_eq_cons.mp hsplit
      rw [own_cons_extra hm] at hpre
      change ((own extra (pre ++ e :: post)).filterMap clock.time).head? ≠ some t at h
      rw [own_append, own_cons_extra he, List.filterMap_append] at h
      cases hfirst : (own extra pre).filterMap clock.time with
      | nil => simpa [hfirst] using h
      | cons u us =>
        -- the first own time is one of those between the two extra messages, hence `t`
        obtain ⟨y, hy, hyu⟩ := List.mem_filterMap.mp (hfirst ▸ List.mem_cons_self ..)
        rw [hfirst, hpre y hy u hyu] at h
        simp at h

/-- With a fresh reference, a queue gives the same with and without its extra messages exactly
when it is unhindered. -/
theorem taken_own_iff (hextra : ∀ m, extra m = true → clock.fresh m = false) {t : τ}
    (hset : t ≠ clock.unset) (hfresh : clock.stale t = false) (xs : List μ) :
    (clock.scan t xs).taken = (clock.scan t (own extra xs)).taken ↔
      Unhindered extra clock t xs := by
  induction xs with
  | nil => exact ⟨fun _ ↦ unhindered_nil, fun _ ↦ rfl⟩
  | cons m rest ih =>
    cases htime : clock.time m with
    | none =>
      have hown : (clock.scan t (own extra (m :: rest))).taken =
          (clock.scan t (own extra rest)).taken := by
        cases hm : extra m with
        | true => rw [own_cons_extra hm]
        | false => rw [own_cons_own hm, scan_unreadable htime]
      rw [scan_unreadable htime, hown, ih,
        unhindered_cons (fun _ ↦ htime) fun u hu ↦ by simp [htime] at hu]
    | some u =>
      cases hm : extra m with
      | true =>
        have hother : t ≠ u := by
          rintro rfl
          have := hextra m hm
          rw [fresh_of_some htime, hfresh] at this
          cases this
        rw [own_cons_extra hm, scan_other htime hset hother,
          unhindered_cons_extra hm (by simp [htime]), ← taken_eq_nil_iff hset hfresh]
        exact eq_comm
      | false =>
        rw [own_cons_own hm]
        by_cases hsame : t = u
        · subst hsame
          rw [scan_consume htime (.inr rfl), scan_consume htime (.inr rfl), Scan.prepend,
            Scan.prepend, List.append_cancel_left_eq, ih,
            unhindered_cons (fun he ↦ by rw [hm] at he; cases he) fun v hv ↦ by
              rw [htime] at hv; exact (Option.some_inj.mp hv).symm]
        · rw [scan_other htime hset hsame, scan_other htime hset hsame]
          exact ⟨fun _ ↦ unhindered_of_own_other hm htime (Ne.symm hsame) rest, fun _ ↦ rfl⟩

/-- A scan without a reference takes nothing from a family exactly when the first time of the
family is stale, if there is one. -/
theorem scanAll_taken_nil_iff (hunset : clock.stale clock.unset = false) (xss : List (List μ)) :
    (∀ s ∈ clock.scanAll clock.unset xss, s.taken = []) ↔
      ∀ t, (xss.flatten.filterMap clock.time).head? = some t → clock.stale t = true := by
  induction xss with
  | nil => simp [scanAll]
  | cons xs rest ih =>
    unfold scanAll
    rw [List.flatten_cons]
    induction xs with
    | nil => simpa using ih
    | cons m tail ihtail =>
      cases htime : clock.time m with
      | none => simpa [scan_unreadable htime, List.filterMap_cons_none htime] using ihtail
      | some t =>
        rw [scan_consume htime (.inl rfl), List.cons_append, List.filterMap_cons_some htime]
        cases hstale : clock.stale t with
        | true =>
          have hset : t ≠ clock.unset := by
            rintro rfl
            rw [hunset] at hstale
            cases hstale
          have hfresh : [m].filter clock.fresh = [] := by
            simp [fresh_of_some htime, hstale]
          refine iff_of_true (fun s hs ↦ ?_) (by simp [hstale])
          rcases List.mem_cons.mp hs with rfl | hs
          · unfold Scan.prepend
            rw [hfresh, taken_of_stale hset hstale, List.append_nil]
          · unfold Scan.prepend at hs
            rw [(scan_of_set hset tail).2, scanAll_of_set hset] at hs
            obtain ⟨ys, -, rfl⟩ := List.mem_map.mp hs
            exact taken_of_stale hset hstale ys
        | false =>
          refine iff_of_false (fun hall ↦ ?_) (by simp [hstale])
          have hnil := hall _ (List.mem_cons_self ..)
          simp [Scan.prepend, fresh_of_some htime, hstale] at hnil

/-- An own leader leads the family without extra messages, too. -/
def Leader.own {xss : List (List μ)} (L : Leader clock xss) (hleader : extra L.leader = false) :
    Leader clock (xss.map (Clock.own extra)) where
  before := L.before.map (Clock.own extra)
  front := Clock.own extra L.front
  leader := L.leader
  behind := Clock.own extra L.behind
  after := L.after.map (Clock.own extra)
  time := L.time
  split := by
    refine (congrArg (List.map (Clock.own extra)) L.split).trans ?_
    rw [List.map_append, List.map_cons, own_append, own_cons_own hleader]
  before_idle := by
    intro ys hys
    obtain ⟨xs, hxs, rfl⟩ := List.mem_map.mp hys
    exact (L.before_idle xs hxs).own
  front_idle := L.front_idle.own
  time_eq := L.time_eq
  time_ne := L.time_ne

omit [DecidableEq τ] in
theorem idleScan_own (hextra : ∀ m, extra m = true → clock.fresh m = false) (xs : List μ) :
    clock.idleScan (own extra xs) = clock.idleScan xs := by
  rw [idleScan, filter_fresh_own hextra, idleScan]

theorem sameTaken_iff_of_own (hextra : ∀ m, extra m = true → clock.fresh m = false)
    {xss : List (List μ)} (L : Leader clock xss) (hleader : extra L.leader = false) :
    SameTaken extra clock xss ↔ HarmlessAt extra L := by
  have hscan : ∀ xs, (clock.scan L.time (L.leader :: xs)).taken =
      [L.leader].filter clock.fresh ++ (clock.scan L.time xs).taken := by
    intro xs
    rw [scan_consume L.time_eq (.inr rfl), Scan.prepend]
  have hsplit : SameTaken extra clock xss ↔ ∀ xs ∈ L.behind :: L.after,
      (clock.scan L.time xs).taken = (clock.scan L.time (own extra xs)).taken := by
    rw [SameTaken, scanAll_of_leader L, scanAll_of_leader (L.own hleader)]
    simp only [Leader.own, List.map_append, List.map_cons, List.map_map, Function.comp_def,
      idleScan_own hextra, filter_fresh_own hextra, Scan.prepend, hscan,
      List.append_cancel_left_eq, List.cons.injEq, List.map_inj_left, List.forall_mem_cons]
  rw [hsplit, HarmlessAt, if_neg (by simp [hleader])]
  cases hfresh : clock.stale L.time with
  | true =>
    refine iff_of_true (fun xs _ ↦ ?_) (.inl rfl)
    rw [taken_of_stale L.time_ne hfresh, taken_of_stale L.time_ne hfresh]
  | false =>
    simp only [Bool.false_eq_true, false_or]
    exact forall₂_congr fun xs _ ↦ taken_own_iff hextra L.time_ne hfresh xs

theorem sameTaken_iff_of_extra (hextra : ∀ m, extra m = true → clock.fresh m = false)
    (hunset : clock.stale clock.unset = false) {xss : List (List μ)} (L : Leader clock xss)
    (hleader : extra L.leader = true) :
    SameTaken extra clock xss ↔ HarmlessAt extra L := by
  have hstale : clock.stale L.time = true := by
    have := hextra L.leader hleader
    rw [fresh_of_some L.time_eq] at this
    simpa using this
  have hfull : (clock.scanAll clock.unset xss).map Scan.taken =
      L.before.map (fun xs ↦ xs.filter clock.fresh) ++
        L.front.filter clock.fresh :: L.after.map fun _ ↦ [] := by
    rw [scanAll_of_leader L]
    simp only [List.map_append, List.map_cons, List.map_map, Function.comp_def, idleScan,
      Scan.prepend, taken_of_stale L.time_ne hstale, List.append_nil]
  have hrest : own extra (L.front ++ L.leader :: L.behind) =
      own extra L.front ++ own extra L.behind := by
    rw [own_append, own_cons_extra hleader]
  have hown : (clock.scanAll clock.unset (xss.map (own extra))).map Scan.taken =
      L.before.map (fun xs ↦ xs.filter clock.fresh) ++
        (L.front.filter clock.fresh ++ (clock.scan clock.unset (own extra L.behind)).taken) ::
        (clock.scanAll (clock.scan clock.unset (own extra L.behind)).reference
          (L.after.map (own extra))).map Scan.taken := by
    have hidle : ∀ ys ∈ L.before.map (own extra), clock.Idle ys := by
      intro ys hys
      obtain ⟨xs, hxs, rfl⟩ := List.mem_map.mp hys
      exact (L.before_idle xs hxs).own
    have hmap : xss.map (own extra) = L.before.map (own extra) ++
        (own extra L.front ++ own extra L.behind) :: L.after.map (own extra) := by
      refine (congrArg (List.map (own extra)) L.split).trans ?_
      rw [List.map_append, List.map_cons, hrest]
    rw [hmap, scanAll_of_idle hidle, scanAll, scan_of_idle L.front_idle.own]
    simp only [List.map_append, List.map_cons, List.map_map, Function.comp_def,
      idleScan, filter_fresh_own hextra, Scan.prepend]
  have hflat : own extra (L.behind ++ L.after.flatten) =
      (own extra L.behind :: L.after.map (own extra)).flatten := by
    rw [own_append, List.flatten_cons]
    exact congrArg _ (List.filter_flatten ..)
  rw [HarmlessAt, if_pos hleader, hflat, ← scanAll_taken_nil_iff hunset, scanAll, SameTaken, hfull,
    hown, List.append_cancel_left_eq, List.cons.injEq, List.forall_mem_cons]
  refine and_congr ⟨fun h ↦ ?_, fun h ↦ ?_⟩ ⟨fun h s hs ↦ ?_, fun h ↦ ?_⟩
  · exact List.append_cancel_left (h.symm.trans (List.append_nil _).symm)
  · rw [h, List.append_nil]
  · have hmem : s.taken ∈ L.after.map fun _ ↦ ([] : List μ) := by
      rw [h]
      exact List.mem_map_of_mem hs
    obtain ⟨-, -, hnil⟩ := List.mem_map.mp hmem
    exact hnil.symm
  · rw [List.map_congr_left h, List.map_const', List.map_const', scanAll_length, List.length_map]

/-- The extra messages that can be put into the queues of a family without a change of what is
taken. -/
theorem sameTaken_iff (hextra : ∀ m, extra m = true → clock.fresh m = false)
    (hunset : clock.stale clock.unset = false) (xss : List (List μ)) :
    SameTaken extra clock xss ↔ ∀ L : Leader clock xss, HarmlessAt extra L := by
  have hat : ∀ L : Leader clock xss, SameTaken extra clock xss ↔ HarmlessAt extra L := by
    intro L
    cases hleader : extra L.leader with
    | true => exact sameTaken_iff_of_extra hextra hunset L hleader
    | false => exact sameTaken_iff_of_own hextra L hleader
  refine ⟨fun h L ↦ (hat L).mp h, fun h ↦ ?_⟩
  rcases idle_or_leader clock xss with hidle | hleader
  · have hownIdle : ∀ ys ∈ xss.map (own extra), clock.Idle ys := by
      intro ys hys
      obtain ⟨xs, hxs, rfl⟩ := List.mem_map.mp hys
      exact (hidle xs hxs).own
    have hfull := scanAll_of_idle hidle []
    have hown := scanAll_of_idle hownIdle []
    rw [List.append_nil, scanAll, List.append_nil] at hfull hown
    rw [SameTaken, hfull, hown]
    simp only [List.map_map, Function.comp_def, idleScan_own hextra]
  · obtain ⟨L⟩ := hleader
    exact (hat L).mpr (h L)

omit [DecidableEq τ] in
/-- Two families of scans that share out the same messages take the same exactly when they leave
the same. -/
theorem taken_eq_iff_left_eq {scans scans' : List (Scan μ τ)} {keep : Scan μ τ → List μ}
    (h : scans.map (fun s ↦ s.taken ++ keep s) = scans'.map fun s ↦ s.taken ++ keep s) :
    scans.map Scan.taken = scans'.map Scan.taken ↔ scans.map keep = scans'.map keep := by
  induction scans generalizing scans' with
  | nil =>
    cases scans' with
    | nil => simp
    | cons s' rest' => simp at h
  | cons s rest ih =>
    cases scans' with
    | nil => simp at h
    | cons s' rest' =>
      simp only [List.map_cons, List.cons.injEq] at h ⊢
      refine and_congr ⟨fun htaken ↦ ?_, fun hkept ↦ ?_⟩ (ih h.2)
      · exact List.append_cancel_left (htaken ▸ h.1)
      · exact List.append_cancel_right (hkept ▸ h.1)

/-- The same is taken exactly when the same fresh messages are left. -/
theorem sameTaken_iff_left (hextra : ∀ m, extra m = true → clock.fresh m = false)
    (xss : List (List μ)) :
    SameTaken extra clock xss ↔
      (clock.scanAll clock.unset xss).map (fun s ↦ s.left.filter clock.fresh) =
        (clock.scanAll clock.unset (xss.map (own extra))).map
          fun s ↦ s.left.filter clock.fresh := by
  refine taken_eq_iff_left_eq ?_
  rw [taken_append_left, taken_append_left, List.map_map]
  exact List.map_congr_left fun xs _ ↦ (filter_fresh_own hextra xs).symm

end Extras
end Clock

end MultiUeProxy.Lib.TimedBatch
