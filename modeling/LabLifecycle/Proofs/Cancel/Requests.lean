import LabLifecycle.Proofs.Cancel.Tokens

/-!
# What tokens hear of requests

Whatever is done with handles and tokens, and in whatever order: a token shows cancellation, and
a wait on it resolves, exactly if somebody has requested it with the handle of the same pair.
That a wait goes on by single accesses to the channel, with anything between two of them, makes
no difference.
-/
namespace LabLifecycle
namespace CancelState
variable {s : CancelState} {steps : List CancelStep} {n : Nat}

/-! ### Tokens and waits in one state -/

theorem isCancelled_of_token {token : Nat} (h : s.tokens[token]? = some n) :
    s.isCancelled token = (s.channel n).fired := by
  simp [isCancelled, tokenChannel, h]

theorem isHeard_of_token {token : Nat} (h : s.tokens[token]? = some n) : s.isHeard n = true :=
  (isHeard_iff s n).mpr (.inl (List.mem_of_getElem? h))

theorem isHeard_of_wait {w : PendingWait} (h : w ∈ s.waits) : s.isHeard w.channel = true :=
  (isHeard_iff ..).mpr (.inr ⟨w, h, rfl⟩)

/-- The wait that goes on, and where it comes to. -/
theorem waits_proceed {wait : Nat} {w : PendingWait} (h : s.waits[wait]? = some w)
    (go : Channel → Waiter → Waiter) :
    (s.proceed wait go).waits[wait]? =
      some { w with waiter := go (s.channel w.channel) w.waiter } := by
  simp [proceed, h]

/-- A token shows cancellation exactly if it was requested. -/
theorem isCancelled_iff_requested {token : Nat} (h : (run {} steps).tokens[token]? = some n) :
    (run {} steps).isCancelled token = true ↔ Requested steps n := by
  rw [isCancelled_of_token h]
  exact (sound_run steps).fired_iff n (isHeard_of_token h)

/-- A wait resolves exactly if cancellation was requested. -/
theorem poll_iff_requested {wait : Nat} {w : PendingWait}
    (h : (run {} steps).waits[wait]? = some w) :
    ((run {} steps).step (.poll wait)).waits[wait]? = some { w with waiter := .resolved } ↔
      Requested steps w.channel := by
  have hsound := sound_run steps
  have hmem := List.mem_of_getElem? h
  rw [← hsound.fired_iff w.channel (isHeard_of_wait hmem),
    ← Waiter.poll_eq_resolved_iff (hsound.counts w.channel) (hsound.waits w hmem), step,
    waits_proceed h]
  simp

/-- A wait that has resolved was told to. -/
theorem requested_of_resolved {w : PendingWait} (h : w ∈ (run {} steps).waits)
    (hresolved : w.waiter = .resolved) : Requested steps w.channel := by
  have hsound := sound_run steps
  have hagrees := hsound.waits w h
  rw [hresolved] at hagrees
  exact (hsound.fired_iff w.channel (isHeard_of_wait h)).mp hagrees

/-- No token of a channel shows cancellation, and no wait on it has resolved. -/
def Silent (s : CancelState) (n : Nat) : Prop :=
  (∀ token, s.tokens[token]? = some n → s.isCancelled token = false) ∧
    ∀ w ∈ s.waits, w.channel = n → w.waiter ≠ .resolved

theorem silent_of_not_requested (h : ¬ Requested steps n) : (run {} steps).Silent n := by
  constructor
  · intro token htoken
    rw [← Bool.not_eq_true, isCancelled_iff_requested htoken]
    exact h
  · rintro w hw rfl hresolved
    exact h (requested_of_resolved hw hresolved)

/-! ### A channel without a handle -/

/-- A step makes a channel or leaves their number as it is. -/
theorem length_channels_step (s : CancelState) (x : CancelStep) :
    s.channels.length ≤ (s.step x).channels.length := by
  cases x with
  | pair => simp [step, addChannel]
  | never => simp [step, addChannel]
  | cancel => simp [step]
  | dropHandle => simp [step]
  | useHandle kept =>
    simp only [step, useHandle]
    split <;> exact Nat.le_refl _
  | _ => exact Nat.le_refl _

/-- There is no way to get a handle for a channel that has none. -/
theorem not_mem_handles_step (hlt : n < s.channels.length) (hnot : n ∉ s.handles)
    (x : CancelStep) : n ∉ (s.step x).handles := by
  have hkept : n ∉ s.kept := fun hmem => hnot (List.mem_append_right _ hmem)
  cases x with
  | pair =>
    have hother : s.channels.length ≠ n := Nat.ne_of_gt hlt
    simp [step, addChannel, handles, hkept, hother.symm]
  | cancel => simpa [step] using hnot
  | dropHandle =>
    simp only [step]
    rwa [handles_dropHandle]
  | useHandle kept =>
    simp only [step, useHandle]
    split
    · rename_i m hm
      intro hmem
      have hm : m ∈ s.kept := List.mem_of_getElem? hm
      change n ∈ m :: (s.handle.toList ++ s.kept.eraseIdx kept) at hmem
      rcases List.mem_cons.mp hmem with rfl | hmem
      · exact hkept hm
      · rcases List.mem_append.mp hmem with hmem | hmem
        · exact hnot (List.mem_append_left _ hmem)
        · exact hkept (List.mem_of_mem_eraseIdx hmem)
    · exact hnot
  | _ => exact hnot

/-- Nobody requests cancellation of a channel without a handle from then on. -/
theorem requested_append_iff (hlt : n < (run {} steps).channels.length)
    (hnot : n ∉ (run {} steps).handles) (later : List CancelStep) :
    Requested (steps ++ later) n ↔ Requested steps n := by
  have hrun : n < (run {} (steps ++ later)).channels.length ∧
      n ∉ (run {} (steps ++ later)).handles ∧
      (Requested (steps ++ later) n ↔ Requested steps n) := by
    induction later using List.reverseRecOn with
    | nil =>
      rw [List.append_nil]
      exact ⟨hlt, hnot, Iff.rfl⟩
    | append_singleton later x ih =>
      obtain ⟨hlt', hnot', hiff⟩ := ih
      rw [← List.append_assoc, run_append, requested_snoc, hiff]
      refine ⟨Nat.lt_of_lt_of_le hlt' (length_channels_step ..), not_mem_handles_step hlt' hnot' x, ?_⟩
      have hother : (run {} (steps ++ later)).handle ≠ some n :=
        fun hhandle => hnot' (Sound.mem_handles_of_handle hhandle)
      simp [hother]
  exact hrun.2.2

/-! ### A wait while steps are taken -/

/-- A wait that is not dropped is on the same channel after a step. -/
theorem channel_wait_step {wait : Nat} {x : CancelStep} (hx : ∀ i, x ≠ .dropWait i)
    (h : s.waits[wait]?.map (·.channel) = some n) :
    (s.step x).waits[wait]?.map (·.channel) = some n := by
  have hproceed : ∀ i go, (s.proceed i go).waits[wait]?.map (·.channel) = some n := by
    intro i go
    rw [← h]
    simp only [proceed, List.getElem?_modify]
    by_cases hi : i = wait
    · cases s.waits[wait]? <;> simp [hi]
    · cases s.waits[wait]? <;> simp [hi]
  cases x with
  | pair => simpa [step, addChannel] using h
  | cancel => simpa [step] using h
  | dropHandle => simpa [step] using h
  | useHandle kept =>
    simp only [step, useHandle]
    split <;> exact h
  | beginWait token =>
    have hlt : wait < s.waits.length := by
      by_contra hge
      simp [List.getElem?_eq_none (Nat.le_of_not_lt hge)] at h
    simp only [step]
    rw [List.getElem?_append_left hlt]
    exact h
  | access i => exact hproceed i Waiter.access
  | poll i => exact hproceed i Waiter.poll
  | dropWait i => exact absurd rfl (hx i)
  | _ => exact h

theorem channel_wait_run {wait : Nat} (h : s.waits[wait]?.map (·.channel) = some n)
    {during : List CancelStep} (hduring : ∀ i, .dropWait i ∉ during) :
    (s.run during).waits[wait]?.map (·.channel) = some n := by
  induction during generalizing s with
  | nil => exact h
  | cons x during ih =>
    have hx : ∀ i, x ≠ .dropWait i := by
      rintro i rfl
      exact hduring i List.mem_cons_self
    exact ih (channel_wait_step hx h) fun i hi => hduring i (List.mem_cons_of_mem x hi)

/-- A wait resolves exactly if cancellation is requested before it or while it is under way. -/
theorem waitDuring_iff_requested {token : Nat} (h : (run {} steps).tokens[token]? = some n)
    {during : List CancelStep} (hduring : ∀ i, .dropWait i ∉ during) :
    ((run {} steps).waitDuring token during).2 = true ↔
      Requested (steps ++ .beginWait token :: .poll (run {} steps).waits.length :: during) n := by
  have hbegun : ((run {} steps).step (.beginWait token)).waits[(run {} steps).waits.length]?.map
      (·.channel) = some n := by
    simp [step, h]
  have hundropped : ∀ i, .dropWait i ∉ CancelStep.poll (run {} steps).waits.length :: during := by
    simpa using hduring
  have hchannel := channel_wait_run hbegun hundropped
  obtain ⟨w, hw, rfl⟩ := Option.map_eq_some_iff.mp hchannel
  have hrun : ((run {} steps).step (.beginWait token)).run
      (.poll (run {} steps).waits.length :: during) =
        run {} (steps ++ .beginWait token :: .poll (run {} steps).waits.length :: during) := by
    rw [run_append]
    rfl
  rw [hrun] at hw
  rw [← poll_iff_requested hw]
  have hlast : ((run {} steps).waitDuring token during).1 =
      (run {} (steps ++ .beginWait token :: .poll (run {} steps).waits.length :: during)).step
        (.poll (run {} steps).waits.length) := by
    rw [run_append]
    simp [waitDuring, run]
  have hresult : ((run {} steps).waitDuring token during).2 =
      ((run {} steps).waitDuring token during).1.waits[(run {} steps).waits.length]?.any
        (·.waiter == .resolved) := rfl
  rw [hresult, hlast, step, waits_proceed hw]
  simp

/-! ### Requests with one handle -/

/-- A request is one with the current handle. -/
theorem requested_cancel_iff (h : (run {} steps).handle ≠ some n) :
    Requested (steps ++ [.cancel]) n ↔ Requested steps n := by
  rw [requested_snoc]
  simp [h]

/-- The channels of other handles stay as they are. -/
theorem channel_cancel (h : s.handle ≠ some n) : s.cancel.channel n = s.channel n := by
  unfold cancel
  split
  · rw [channel_react, if_neg h]
  · rfl

/-- A channel is new when it is made. -/
theorem new_channel (steps : List CancelStep) :
    (run {} steps).isHeard (run {} steps).channels.length = false ∧
      (run {} steps).channels.length ∉ (run {} steps).handles := by
  have hsound := sound_run steps
  constructor
  · rw [← Bool.not_eq_true]
    exact fun hheard => Nat.lt_irrefl _ (hsound.heard_lt _ hheard)
  · exact fun hmem => Nat.lt_irrefl _ (hsound.handle_lt _ hmem)

/-- The last token is the one of a new channel. -/
theorem tokens_new {x : CancelStep} (hx : x ∈ [CancelStep.pair, .never]) :
    (s.step x).tokens.getLast? = some s.channels.length := by
  simp only [List.mem_cons, List.not_mem_nil, or_false] at hx
  rcases hx with rfl | rfl
  · simp [step, addChannel]
  · simp [step, addChannel]

/-- Nobody can request cancellation of a token that has never had a handle. -/
theorem not_requested_never (steps later : List CancelStep) :
    ¬ Requested (steps ++ .never :: later) (run {} steps).channels.length := by
  have hsplit : steps ++ .never :: later = (steps ++ [.never]) ++ later := by simp
  have hstep : run {} (steps ++ [.never]) = (run {} steps).step .never := run_append ..
  obtain ⟨-, hnot⟩ := new_channel steps
  rw [hsplit, requested_append_iff, requested_snoc]
  · rintro (hrequested | ⟨hx, -⟩)
    · exact Nat.lt_irrefl _ ((sound_run steps).requested_lt _ hrequested)
    · cases hx
  · rw [hstep]
    simp [step, addChannel]
  · rw [hstep]
    exact hnot

/-- Once its handle is dropped nobody can request cancellation of a channel. -/
theorem not_requested_dropHandle (hhandle : (run {} steps).handle = some n)
    (hnot : ¬ Requested steps n) (later : List CancelStep) :
    ¬ Requested (steps ++ .dropHandle :: later) n := by
  have hsound := sound_run steps
  have hsplit : steps ++ .dropHandle :: later = (steps ++ [.dropHandle]) ++ later := by simp
  have hstep : run {} (steps ++ [.dropHandle]) = (run {} steps).dropHandle := run_append ..
  rw [hsplit, requested_append_iff, requested_snoc]
  · rintro (hrequested | ⟨hx, -⟩)
    · exact hnot hrequested
    · cases hx
  · rw [hstep, length_channels_dropHandle]
    exact hsound.handle_lt n (Sound.mem_handles_of_handle hhandle)
  · rw [hstep, ← hsound.dropHandle.closed_iff]
    change (((run {} steps).react .drop).channel n).closed = true
    rw [channel_react, if_pos hhandle]
    rfl

/-- The drop of the handle does not take the request from a wait. -/
theorem poll_cancel_dropHandle {wait : Nat} {w : PendingWait}
    (h : (run {} steps).waits[wait]? = some w) (hhandle : (run {} steps).handle = some w.channel) :
    (run {} (steps ++ [.cancel, .dropHandle, .poll wait])).waits[wait]? =
      some { w with waiter := .resolved } := by
  have hsplit : steps ++ [.cancel, .dropHandle, .poll wait] =
      (steps ++ [.cancel, .dropHandle]) ++ [.poll wait] := by simp
  have hwait : (run {} (steps ++ [.cancel, .dropHandle])).waits[wait]? = some w := by
    rw [run_append]
    simpa [run, step] using h
  have hrequested : Requested (steps ++ [.cancel, .dropHandle]) w.channel :=
    ⟨steps, [.dropHandle], rfl, hhandle⟩
  rw [hsplit, run_append]
  exact (poll_iff_requested hwait).mpr hrequested

/-! ### The protocol -/

/-- **Cancellation is heard by the pair it was requested for, and by nobody else.** -/
theorem heard_iff_requested (steps : List CancelStep) :
    -- A token shows it exactly if it was requested, and so does every wait that goes on.
    (∀ token n, (run {} steps).tokens[token]? = some n →
      ((run {} steps).isCancelled token = true ↔ Requested steps n)) ∧
    (∀ wait w, (run {} steps).waits[wait]? = some w →
      (w.waiter = .resolved → Requested steps w.channel) ∧
      (((run {} steps).step (.poll wait)).waits[wait]? = some { w with waiter := .resolved } ↔
        Requested steps w.channel)) ∧
    (∀ token n during, (run {} steps).tokens[token]? = some n → (∀ i, .dropWait i ∉ during) →
      (((run {} steps).waitDuring token during).2 = true ↔
        Requested (steps ++ .beginWait token :: .poll (run {} steps).waits.length :: during)
          n)) ∧
    -- It stands, for every token of the pair that there is then. A clone is one of them.
    (∀ later token token' n, (run {} steps).tokens[token]? = some n →
      (run {} (steps ++ later)).tokens[token']? = some n →
      (run {} steps).isCancelled token = true →
      (run {} (steps ++ later)).isCancelled token' = true) ∧
    (∀ token token' n, (run {} steps).tokens[token]? = some n →
      (run {} steps).tokens[token']? = some n →
      (run {} steps).isCancelled token = (run {} steps).isCancelled token') ∧
    (∀ token n, (run {} steps).tokens[token]? = some n →
      (run {} (steps ++ [.clone token])).tokens[(run {} steps).tokens.length]? = some n) ∧
    -- A request is nothing to other pairs. A token that never had a handle is of none.
    (∀ token n, (run {} steps).tokens[token]? = some n → (run {} steps).handle ≠ some n →
      (run {} (steps ++ [.cancel])).isCancelled token = (run {} steps).isCancelled token) ∧
    (∀ wait w, (run {} steps).waits[wait]? = some w →
      (run {} steps).handle ≠ some w.channel →
      (run {} (steps ++ [.cancel, .poll wait])).waits[wait]? =
        (run {} (steps ++ [.poll wait])).waits[wait]?) ∧
    (∀ x ∈ [CancelStep.pair, .never],
      (run {} (steps ++ [x])).tokens.getLast? = some (run {} steps).channels.length ∧
      (run {} steps).isHeard (run {} steps).channels.length = false ∧
      (run {} steps).channels.length ∉ (run {} steps).handles) ∧
    (run {} (steps ++ [.pair])).handle = some (run {} steps).channels.length ∧
    (∀ later, (run {} (steps ++ .never :: later)).Silent (run {} steps).channels.length) ∧
    -- Without a request the drop of the handle leaves all waits pending, whatever comes later.
    (∀ later n, (run {} steps).handle = some n → ¬ Requested steps n →
      (run {} (steps ++ .dropHandle :: later)).Silent n) ∧
    -- With one, right before it, every wait under way resolves.
    (∀ wait w, (run {} steps).waits[wait]? = some w → (run {} steps).handle = some w.channel →
      (run {} (steps ++ [.cancel, .dropHandle, .poll wait])).waits[wait]? =
        some { w with waiter := .resolved }) := by
  refine ⟨?shown, ?polled, ?during, ?stands, ?agree, ?clone, ?others, ?otherWaits, ?new, ?paired,
    ?never, ?dropped, ?together⟩
  case shown => exact fun token n htoken => isCancelled_iff_requested htoken
  case polled =>
    intro wait w hw
    exact ⟨requested_of_resolved (List.mem_of_getElem? hw), poll_iff_requested hw⟩
  case during =>
    exact fun token n during htoken hduring => waitDuring_iff_requested htoken hduring
  case stands =>
    intro later token token' n htoken htoken' hcancelled
    rw [isCancelled_iff_requested htoken] at hcancelled
    rw [isCancelled_iff_requested htoken']
    exact hcancelled.append later
  case agree =>
    intro token token' n htoken htoken'
    rw [isCancelled_of_token htoken, isCancelled_of_token htoken']
  case clone =>
    intro token n htoken
    rw [run_append]
    change ((run {} steps).tokens ++ (run {} steps).tokens[token]?.toList)[_]? = some n
    simp [htoken]
  case others =>
    intro token n htoken hother
    have htoken' : (run {} (steps ++ [.cancel])).tokens[token]? = some n := by
      rw [run_append]
      change (run {} steps).cancel.tokens[token]? = some n
      rwa [tokens_cancel]
    rw [Bool.eq_iff_iff, isCancelled_iff_requested htoken, isCancelled_iff_requested htoken']
    exact requested_cancel_iff hother
  case otherWaits =>
    intro wait w hw hother
    have hw' : (run {} steps).cancel.waits[wait]? = some w := by rwa [waits_cancel]
    rw [run_append, run_append]
    change ((run {} steps).cancel.proceed wait Waiter.poll).waits[wait]? =
      ((run {} steps).proceed wait Waiter.poll).waits[wait]?
    rw [waits_proceed hw, waits_proceed hw', channel_cancel hother]
  case new =>
    intro x hx
    rw [run_append]
    exact ⟨tokens_new hx, new_channel steps⟩
  case paired =>
    rw [run_append]
    rfl
  case never => exact fun later => silent_of_not_requested (not_requested_never steps later)
  case dropped =>
    intro later n hhandle hnot
    exact silent_of_not_requested (not_requested_dropHandle hhandle hnot later)
  case together => exact fun wait w hw hhandle => poll_cancel_dropHandle hw hhandle

/-- A request right before the drop is heard by a clone and by a wait that has parked, and not by
a token without a handle. -/
theorem heard_by_clone_and_wait :
    (run {} [.pair, .never, .clone 0, .beginWait 2, .access 0, .cancel, .dropHandle]).isCancelled
        2 = true ∧
      (run {} [.pair, .never, .clone 0, .beginWait 2, .access 0, .cancel, .dropHandle]).isCancelled
        1 = false ∧
      (run {} [.pair, .never, .clone 0, .beginWait 2, .access 0, .cancel, .dropHandle,
        .poll 0]).waits[0]? = some { channel := 0, waiter := .resolved } := by
  obtain ⟨hshown, hpolled, -⟩ := heard_iff_requested
    [.pair, .never, .clone 0, .beginWait 2, .access 0, .cancel, .dropHandle]
  obtain ⟨-, -, -, -, -, -, -, -, -, -, hnever, -⟩ := heard_iff_requested [.pair]
  have hrequested : Requested
      [.pair, .never, .clone 0, .beginWait 2, .access 0, .cancel, .dropHandle] 0 :=
    ⟨[.pair, .never, .clone 0, .beginWait 2, .access 0], [.dropHandle], rfl, rfl⟩
  have hsilent := hnever [.clone 0, .beginWait 2, .access 0, .cancel, .dropHandle]
  exact ⟨(hshown 2 0 rfl).mpr hrequested, hsilent.1 1 rfl,
    (hpolled 0 { channel := 0, waiter := .parked 0 } rfl).2.mpr hrequested⟩

end CancelState
end LabLifecycle
