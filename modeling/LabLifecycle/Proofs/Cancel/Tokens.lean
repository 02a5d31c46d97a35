import LabLifecycle.Engine.Cancel
import Mathlib.Data.List.Induction
import Mathlib.Data.List.Nodup
import Mathlib.Data.List.Perm.Basic

/-!
# Channels against the history of requests

`CancelState.Sound` ties the channels of a state to the requests made so far, and every step
keeps it. Of a channel that no token is left of it does not say whether it shows a request,
because a request that nobody can hear of is lost. Since tokens come from tokens only, such a
channel is never heard of again.
-/
namespace LabLifecycle

/-! ### Channels and waits -/

namespace Channel

/-- The version tells whether there was a request. -/
def Counts (c : Channel) : Prop := c.fired = true ↔ c.version ≠ 0

theorem counts_new (closed : Bool) : Counts { closed := closed } := by simp [Counts]

theorem Counts.react {c : Channel} (h : c.Counts) (e : HandleEvent) : (c.react e).Counts := by
  cases e with
  | cancel =>
    unfold Channel.react
    by_cases hclosed : c.closed = true
    · simpa [hclosed] using h
    · simp [hclosed, Counts]
  | drop => exact h

end Channel

namespace Waiter
variable {c : Channel} {w : Waiter}

/-- What a wait has come to agrees with the channel. It parks only if there is no request, so
the version that it has seen is the first one. -/
def Agrees (c : Channel) : Waiter → Prop
  | fresh => True
  | parked seen => seen = 0
  | stranded => c.closed = true ∧ c.fired = false
  | resolved => c.fired = true

theorem Agrees.react (h : w.Agrees c) (e : HandleEvent) : w.Agrees (c.react e) := by
  cases w with
  | fresh => trivial
  | parked seen => exact h
  | stranded =>
    obtain ⟨hclosed, hfired⟩ := h
    cases e with
    | cancel => simpa [Channel.react, hclosed, Agrees] using hfired
    | drop => exact ⟨rfl, hfired⟩
  | resolved => exact Channel.fired_react h e

theorem Agrees.access (hc : c.Counts) (h : w.Agrees c) : (w.access c).Agrees c := by
  cases w with
  | fresh =>
    by_cases hfired : c.fired = true
    · simp [Waiter.access, hfired, Agrees]
    · have hversion : c.version = 0 := by
        by_contra hne
        exact hfired (hc.mpr hne)
      simp [Waiter.access, hfired, hversion, Agrees]
  | parked seen =>
    have hseen : seen = 0 := h
    subst hseen
    by_cases hversion : c.version = 0
    · have hfired : c.fired = false := by
        have hne := mt hc.mp (not_not_intro hversion)
        simpa using hne
      by_cases hclosed : c.closed = true
      · simp [Waiter.access, hversion, hclosed, hfired, Agrees]
      · simp [Waiter.access, hversion, hclosed, Agrees]
    · simp [Waiter.access, hversion, Agrees]
  | stranded => exact h
  | resolved => exact h

theorem Agrees.poll (hc : c.Counts) (h : w.Agrees c) : (w.poll c).Agrees c :=
  ((h.access hc).access hc).access hc

/-- A wait that goes on until it rests has resolved exactly if there was a request. -/
theorem poll_eq_resolved_iff (hc : c.Counts) (h : w.Agrees c) :
    w.poll c = resolved ↔ c.fired = true := by
  constructor
  · intro hresolved
    have hagrees := h.poll hc
    rw [hresolved] at hagrees
    exact hagrees
  · intro hfired
    have hversion : c.version ≠ 0 := hc.mp hfired
    cases w with
    | fresh => simp [poll, Waiter.access, hfired]
    | parked seen =>
      -- There is news for it, however long ago it was parked, and whether there is a handle or not.
      have hseen : seen = 0 := h
      simp [poll, Waiter.access, hfired, hversion, hseen]
    | stranded =>
      rw [h.2] at hfired
      cases hfired
    | resolved => rfl

end Waiter

/-! ### Handles, tokens and channels -/

namespace CancelState
variable {s : CancelState}

/-- The channels of all handles there are. -/
def handles (s : CancelState) : List Nat := s.handle.toList ++ s.kept

theorem isHeard_iff (s : CancelState) (n : Nat) :
    s.isHeard n = true ↔ n ∈ s.tokens ∨ ∃ w ∈ s.waits, w.channel = n := by
  simp [isHeard]

/-- An event happens to the channel of the current handle and to no other. -/
theorem channel_react (s : CancelState) (e : HandleEvent) (n : Nat) :
    (s.react e).channel n = if s.handle = some n then (s.channel n).react e else s.channel n := by
  have hnever : Channel.never.react e = Channel.never := by cases e <;> rfl
  unfold react
  cases hhandle : s.handle with
  | none => simp
  | some m =>
    simp only [channel, List.getD_eq_getElem?_getD, List.getElem?_modify, Option.some.injEq]
    by_cases hn : m = n
    · subst hn
      cases s.channels[m]? with
      | none => simp [hnever]
      | some c => simp
    · simp [hn]

/-! An event happens to a channel, and neither to handles nor to tokens nor to waits. -/

@[simp] theorem length_channels_react (s : CancelState) (e : HandleEvent) :
    (s.react e).channels.length = s.channels.length := by
  unfold react
  cases s.handle <;> simp

@[simp] theorem handle_react (s : CancelState) (e : HandleEvent) :
    (s.react e).handle = s.handle := by
  unfold react
  split <;> rfl

@[simp] theorem kept_react (s : CancelState) (e : HandleEvent) : (s.react e).kept = s.kept := by
  unfold react
  split <;> rfl

@[simp] theorem tokens_react (s : CancelState) (e : HandleEvent) :
    (s.react e).tokens = s.tokens := by
  unfold react
  split <;> rfl

@[simp] theorem waits_react (s : CancelState) (e : HandleEvent) :
    (s.react e).waits = s.waits := by
  unfold react
  split <;> rfl

/-- What a request comes to, if it is not lost, is an event. -/
theorem cancel_cases (s : CancelState) : s.cancel = s.react .cancel ∨ s.cancel = s := by
  unfold cancel
  split
  · exact .inl rfl
  · exact .inr rfl

@[simp] theorem length_channels_cancel (s : CancelState) :
    s.cancel.channels.length = s.channels.length := by
  rcases s.cancel_cases with h | h <;> simp [h]

@[simp] theorem handles_cancel (s : CancelState) : s.cancel.handles = s.handles := by
  rcases s.cancel_cases with h | h <;> simp [h, handles]

@[simp] theorem tokens_cancel (s : CancelState) : s.cancel.tokens = s.tokens := by
  rcases s.cancel_cases with h | h <;> simp [h]

@[simp] theorem waits_cancel (s : CancelState) : s.cancel.waits = s.waits := by
  rcases s.cancel_cases with h | h <;> simp [h]

@[simp] theorem length_channels_dropHandle (s : CancelState) :
    s.dropHandle.channels.length = s.channels.length := s.length_channels_react .drop

@[simp] theorem kept_dropHandle (s : CancelState) : s.dropHandle.kept = s.kept :=
  s.kept_react .drop

@[simp] theorem tokens_dropHandle (s : CancelState) : s.dropHandle.tokens = s.tokens :=
  s.tokens_react .drop

@[simp] theorem waits_dropHandle (s : CancelState) : s.dropHandle.waits = s.waits :=
  s.waits_react .drop

theorem handles_dropHandle (s : CancelState) : s.dropHandle.handles = s.kept :=
  s.kept_dropHandle

theorem channel_addChannel (s : CancelState) (c : Channel) (n : Nat) :
    (s.addChannel c).channel n = if n = s.channels.length then c else s.channel n := by
  simp only [channel, addChannel, List.getD_eq_getElem?_getD]
  by_cases hn : n = s.channels.length
  · simp [hn]
  · by_cases hlt : n < s.channels.length
    · simp [hn, List.getElem?_append_left hlt]
    · have hbeyond : s.channels.length < n := by omega
      have hnone : (s.channels ++ [c])[n]? = none := by
        rw [List.getElem?_eq_none_iff, List.length_append, List.length_singleton]
        omega
      have hnone' : s.channels[n]? = none := by
        rw [List.getElem?_eq_none_iff]
        omega
      simp [hn, hnone, hnone']

theorem channel_of_le {n : Nat} (h : s.channels.length ≤ n) : s.channel n = Channel.never := by
  simp [channel, h]

/-! ### What is known of a state -/

/-- The numbers in a state are those of its channels, each handle has a channel of its own and
keeps it open, and every channel of which there is still a token shows whether there was a
request. -/
structure Sound (s : CancelState) (requested : Nat → Prop) : Prop where
  heard_lt : ∀ n, s.isHeard n = true → n < s.channels.length
  handle_lt : ∀ n ∈ s.handles, n < s.channels.length
  distinct : s.handles.Nodup
  closed_iff : ∀ n, (s.channel n).closed = true ↔ n ∉ s.handles
  requested_lt : ∀ n, requested n → n < s.channels.length
  fired_iff : ∀ n, s.isHeard n = true → ((s.channel n).fired = true ↔ requested n)
  counts : ∀ n, (s.channel n).Counts
  waits : ∀ w ∈ s.waits, w.waiter.Agrees (s.channel w.channel)

namespace Sound
variable {requested : Nat → Prop}

theorem empty : Sound {} fun _ => False where
  heard_lt n h := by simp [isHeard] at h
  handle_lt n h := by simp [handles] at h
  distinct := List.nodup_nil
  closed_iff n := by simp [handles, channel, Channel.never]
  requested_lt n h := h.elim
  fired_iff n h := by simp [isHeard] at h
  counts n := by
    rw [channel_of_le (Nat.zero_le n)]
    exact Channel.counts_new true
  waits w h := by cases h

/-- Only what is known of requests matters. -/
theorem of_iff (h : s.Sound requested) {requested' : Nat → Prop}
    (hiff : ∀ n, requested' n ↔ requested n) : s.Sound requested' := by
  have heq : requested' = requested := by
    funext n
    exact propext (hiff n)
  rwa [heq]

/-- Tokens come from tokens only, and a wait that has gone on agrees with its channel. -/
theorem retell (h : s.Sound requested) {tokens : List Nat} {waits : List PendingWait}
    (htokens : ∀ n ∈ tokens, s.isHeard n = true)
    (hwaits : ∀ w ∈ waits, s.isHeard w.channel = true ∧ w.waiter.Agrees (s.channel w.channel)) :
    Sound { s with tokens := tokens, waits := waits } requested := by
  have hheard : ∀ n, isHeard { s with tokens := tokens, waits := waits } n = true →
      s.isHeard n = true := by
    intro n hn
    rcases (isHeard_iff _ n).mp hn with hn | ⟨w, hw, rfl⟩
    · exact htokens n hn
    · exact (hwaits w hw).1
  constructor
  case heard_lt => exact fun n hn => h.heard_lt n (hheard n hn)
  case handle_lt => exact h.handle_lt
  case distinct => exact h.distinct
  case closed_iff => exact h.closed_iff
  case requested_lt => exact h.requested_lt
  case fired_iff => exact fun n hn => h.fired_iff n (hheard n hn)
  case counts => exact h.counts
  case waits => exact fun w hw => (hwaits w hw).2

/-- Handles can be kept and taken up. -/
theorem rearrange (h : s.Sound requested) {handle : Option Nat} {kept : List Nat}
    (hperm : (handle.toList ++ kept).Perm s.handles) :
    Sound { s with handle := handle, kept := kept } requested where
  heard_lt := h.heard_lt
  handle_lt n hn := h.handle_lt n (hperm.mem_iff.mp hn)
  distinct := hperm.nodup_iff.mpr h.distinct
  closed_iff n := (h.closed_iff n).trans (not_congr hperm.mem_iff.symm)
  requested_lt := h.requested_lt
  fired_iff := h.fired_iff
  counts := h.counts
  waits := h.waits

theorem mem_handles_of_handle {n : Nat} (h : s.handle = some n) : n ∈ s.handles := by
  simp [handles, h]

/-- What an event leaves as it is, whatever is known of requests. -/
theorem agrees_react (h : s.Sound requested) (e : HandleEvent) :
    (∀ n, ((s.react e).channel n).Counts) ∧
      ∀ w ∈ (s.react e).waits, w.waiter.Agrees ((s.react e).channel w.channel) := by
  constructor
  · intro n
    rw [channel_react]
    split
    · exact (h.counts n).react e
    · exact h.counts n
  · intro w hw
    rw [waits_react] at hw
    rw [channel_react]
    split
    · exact (h.waits w hw).react e
    · exact h.waits w hw

/-- A request is heard wherever there is still a token, and is one of the current handle. -/
theorem cancel (h : s.Sound requested) :
    s.cancel.Sound fun n => requested n ∨ s.handle = some n := by
  have hlt : ∀ n, requested n ∨ s.handle = some n → n < s.channels.length := by
    rintro n (hn | hn)
    · exact h.requested_lt n hn
    · exact h.handle_lt n (mem_handles_of_handle hn)
  unfold CancelState.cancel
  by_cases hheard : s.handle.any s.isHeard = true
  · rw [if_pos hheard]
    obtain ⟨m, hm, hmheard⟩ := (Option.any_eq_true ..).mp hheard
    have hopen : (s.channel m).closed = false := by
      have hin := mem_handles_of_handle hm
      have hnot := mt (h.closed_iff m).mp (not_not_intro hin)
      simpa using hnot
    have hchannel : ∀ n, (s.react .cancel).channel n =
        if m = n then { s.channel n with fired := true, version := (s.channel n).version + 1 }
        else s.channel n := by
      intro n
      rw [channel_react, hm]
      by_cases hn : m = n
      · subst hn
        simp [Channel.react, hopen]
      · simp [hn]
    have hhandles : (s.react .cancel).handles = s.handles := by simp [handles]
    have hisHeard : ∀ n, (s.react .cancel).isHeard n = s.isHeard n := by simp [isHeard]
    obtain ⟨hcounts, hwaits⟩ := h.agrees_react .cancel
    constructor
    case heard_lt =>
      intro n hn
      rw [hisHeard] at hn
      rw [length_channels_react]
      exact h.heard_lt n hn
    case handle_lt =>
      rw [hhandles, length_channels_react]
      exact h.handle_lt
    case distinct =>
      rw [hhandles]
      exact h.distinct
    case closed_iff =>
      intro n
      rw [hhandles, ← h.closed_iff n, hchannel]
      split
      all_goals exact Iff.rfl
    case requested_lt =>
      rw [length_channels_react]
      exact hlt
    case fired_iff =>
      intro n hn
      rw [hisHeard] at hn
      rw [hchannel, hm, Option.some.injEq]
      by_cases hmn : m = n
      · simp [hmn]
      · simpa [hmn] using h.fired_iff n hn
    case counts => exact hcounts
    case waits => exact hwaits
  · -- Either there is no handle, or nobody is left to hear of the request.
    rw [if_neg hheard]
    refine { h with requested_lt := hlt, fired_iff := fun n hn => ?_ }
    have hother : s.handle ≠ some n := by
      intro hhandle
      exact hheard ((Option.any_eq_true ..).mpr ⟨n, hhandle, hn⟩)
    rw [h.fired_iff n hn]
    simp [hother]

/-- The channel of a handle that is dropped is closed, and no other handle has it. -/
theorem dropHandle (h : s.Sound requested) : s.dropHandle.Sound requested := by
  have hchannel : ∀ n, s.dropHandle.channel n = (s.react .drop).channel n := fun _ => rfl
  have hheard : ∀ n, s.dropHandle.isHeard n = s.isHeard n := by simp [isHeard]
  have hsublist : s.kept.Sublist s.handles := List.sublist_append_right ..
  obtain ⟨hcounts, hwaits⟩ := h.agrees_react .drop
  constructor
  case heard_lt =>
    intro n hn
    rw [hheard] at hn
    rw [length_channels_dropHandle]
    exact h.heard_lt n hn
  case handle_lt =>
    intro n hn
    rw [handles_dropHandle] at hn
    rw [length_channels_dropHandle]
    exact h.handle_lt n (hsublist.subset hn)
  case distinct =>
    rw [handles_dropHandle]
    exact h.distinct.sublist hsublist
  case closed_iff =>
    intro n
    rw [handles_dropHandle, hchannel, channel_react]
    by_cases hn : s.handle = some n
    · have hnot : n ∉ s.kept := by
        have hdistinct := h.distinct
        simp only [handles, hn, Option.toList_some, List.singleton_append, List.nodup_cons]
          at hdistinct
        exact hdistinct.1
      simp [hn, Channel.react, hnot]
    · rw [if_neg hn, h.closed_iff n]
      simp [handles, hn]
  case requested_lt =>
    rw [length_channels_dropHandle]
    exact h.requested_lt
  case fired_iff =>
    intro n hn
    rw [hheard] at hn
    rw [← h.fired_iff n hn, hchannel, channel_react]
    split
    all_goals exact Iff.rfl
  case counts => exact hcounts
  case waits => exact hwaits

/-- A new channel is new to everybody. It has a handle of its own, or it is closed. -/
theorem addChannel (h : s.Sound requested) (closed : Bool) {handle : Option Nat}
    (hhandles : handle.toList ++ s.kept =
      (if closed then [] else [s.channels.length]) ++ s.handles) :
    Sound { s.addChannel { closed := closed } with handle := handle } requested := by
  have hmem : ∀ n, n ∈ handle.toList ++ s.kept ↔
      (closed = false ∧ n = s.channels.length) ∨ n ∈ s.handles := by
    intro n
    rw [hhandles, List.mem_append]
    cases closed <;> simp
  have hnew : s.channels.length ∉ s.handles :=
    fun hin => Nat.lt_irrefl _ (h.handle_lt _ hin)
  have hheard : ∀ n, (s.addChannel { closed := closed }).isHeard n = true →
      n = s.channels.length ∨ s.isHeard n = true := by
    intro n hn
    rw [isHeard_iff] at hn ⊢
    simp only [CancelState.addChannel, List.mem_append, List.mem_singleton] at hn
    rcases hn with (hn | hn) | hn
    · exact .inr (.inl hn)
    · exact .inl hn
    · exact .inr (.inr hn)
  have hlength : (s.addChannel { closed := closed }).channels.length = s.channels.length + 1 := by
    simp [CancelState.addChannel]
  have hchannel : ∀ n, CancelState.channel
      { s.addChannel { closed := closed } with handle := handle } n =
        if n = s.channels.length then { closed := closed } else s.channel n :=
    s.channel_addChannel { closed := closed }
  constructor
  case heard_lt =>
    intro n hn
    rw [hlength]
    rcases hheard n hn with rfl | hn
    · omega
    · have hlt := h.heard_lt n hn
      omega
  case handle_lt =>
    intro n hn
    rw [hlength]
    rcases (hmem n).mp hn with ⟨-, rfl⟩ | hn
    · omega
    · have hlt := h.handle_lt n hn
      omega
  case distinct =>
    change (handle.toList ++ s.kept).Nodup
    rw [hhandles]
    cases closed with
    | true => exact h.distinct
    | false => exact List.nodup_cons.mpr ⟨hnew, h.distinct⟩
  case closed_iff =>
    intro n
    change _ ↔ n ∉ handle.toList ++ s.kept
    rw [hchannel, hmem]
    by_cases hn : n = s.channels.length
    · subst hn
      simp [hnew]
    · simpa [hn] using h.closed_iff n
  case requested_lt =>
    intro n hn
    rw [hlength]
    have hlt := h.requested_lt n hn
    omega
  case fired_iff =>
    intro n hn
    rw [hchannel]
    by_cases hnlength : n = s.channels.length
    · have hnot : ¬ requested n := by
        intro hrequested
        have hlt := h.requested_lt n hrequested
        omega
      simp [hnlength, hnlength ▸ hnot]
    · rw [if_neg hnlength]
      exact h.fired_iff n ((hheard n hn).resolve_left hnlength)
  case counts =>
    intro n
    rw [hchannel]
    split
    · exact Channel.counts_new closed
    · exact h.counts n
  case waits =>
    intro w hw
    have hlt : w.channel < s.channels.length :=
      h.heard_lt w.channel ((isHeard_iff ..).mpr (.inr ⟨w, hw, rfl⟩))
    rw [hchannel, if_neg (by omega)]
    exact h.waits w hw

/-- A wait can go on in any way that suits it. -/
theorem proceed (h : s.Sound requested) (wait : Nat) {go : Channel → Waiter → Waiter}
    (hgo : ∀ (c : Channel) (w : Waiter), c.Counts → w.Agrees c → (go c w).Agrees c) :
    (s.proceed wait go).Sound requested := by
  refine h.retell (fun n hn => (isHeard_iff s n).mpr (.inl hn)) fun w hw => ?_
  have hold : ∀ w ∈ s.waits, s.isHeard w.channel = true ∧
      w.waiter.Agrees (s.channel w.channel) := by
    intro w hw
    exact ⟨(isHeard_iff ..).mpr (.inr ⟨w, hw, rfl⟩), h.waits w hw⟩
  obtain ⟨i, hi⟩ := List.mem_iff_getElem?.mp hw
  rw [List.getElem?_modify] at hi
  obtain ⟨v, hv, rfl⟩ := Option.map_eq_some_iff.mp hi
  obtain ⟨hheard, hagrees⟩ := hold v (List.mem_of_getElem? hv)
  split
  · exact ⟨hheard, hgo _ _ (h.counts v.channel) hagrees⟩
  · exact ⟨hheard, hagrees⟩

/-- No step spoils what is known, and only a request with the current handle adds to it. -/
theorem step (h : s.Sound requested) (x : CancelStep) :
    (s.step x).Sound fun n => requested n ∨ (x = .cancel ∧ s.handle = some n) := by
  have htoken : ∀ n ∈ s.tokens, s.isHeard n = true :=
    fun n hn => (isHeard_iff s n).mpr (.inl hn)
  have hwait : ∀ w ∈ s.waits, s.isHeard w.channel = true ∧
      w.waiter.Agrees (s.channel w.channel) :=
    fun w hw => ⟨(isHeard_iff ..).mpr (.inr ⟨w, hw, rfl⟩), h.waits w hw⟩
  have hcopy : ∀ (token n : Nat), n ∈ s.tokens[token]?.toList → n ∈ s.tokens := by
    intro token n hn
    exact List.mem_of_getElem? (Option.mem_toList.mp hn)
  by_cases hx : x = .cancel
  · subst hx
    exact h.cancel.of_iff fun n => by simp
  · suffices hkept : (s.step x).Sound requested from hkept.of_iff fun n => by simp [hx]
    cases x with
    | cancel => exact absurd rfl hx
    | pair =>
      refine h.dropHandle.addChannel false ?_
      rw [handles_dropHandle, kept_dropHandle, length_channels_dropHandle]
      rfl
    | never => exact h.addChannel true rfl
    | clone token =>
      refine h.retell (fun n hn => ?_) hwait
      rcases List.mem_append.mp hn with hn | hn
      · exact htoken n hn
      · exact htoken n (hcopy token n hn)
    | dropHandle => exact h.dropHandle
    | keepHandle => exact h.rearrange (List.Perm.refl _)
    | useHandle kept =>
      simp only [CancelState.step, CancelState.useHandle]
      split
      · rename_i n hn
        refine h.rearrange ?_
        obtain ⟨hlt, rfl⟩ := List.getElem?_eq_some_iff.mp hn
        have hkept : (s.kept[kept] :: s.kept.eraseIdx kept).Perm s.kept :=
          List.getElem_cons_eraseIdx_perm hlt
        change (s.kept[kept] :: (s.handle.toList ++ s.kept.eraseIdx kept)).Perm s.handles
        exact List.perm_middle.symm.trans (hkept.append_left s.handle.toList)
      · exact h
    | dropTokens => exact h.retell (fun n hn => (List.not_mem_nil hn).elim) hwait
    | dropToken token =>
      exact h.retell (fun n hn => htoken n (List.mem_of_mem_eraseIdx hn)) hwait
    | beginWait token =>
      refine h.retell htoken fun w hw => ?_
      rcases List.mem_append.mp hw with hw | hw
      · exact hwait w hw
      · obtain ⟨n, hn, rfl⟩ := List.mem_map.mp hw
        exact ⟨htoken n (hcopy token n hn), trivial⟩
    | access wait => exact h.proceed wait fun c w hc hw => hw.access hc
    | poll wait => exact h.proceed wait fun c w hc hw => hw.poll hc
    | dropWait wait =>
      exact h.retell htoken fun w hw => hwait w (List.mem_of_mem_eraseIdx hw)

end Sound

/-! ### Runs -/

theorem run_append (s : CancelState) (steps later : List CancelStep) :
    s.run (steps ++ later) = (s.run steps).run later := List.foldl_append

/-- Somebody has requested cancellation with the handle of a channel. -/
def Requested (steps : List CancelStep) (n : Nat) : Prop :=
  ∃ before after, steps = before ++ .cancel :: after ∧ (run {} before).handle = some n

variable {steps later : List CancelStep} {n : Nat}

theorem not_requested_nil (n : Nat) : ¬ Requested [] n := by
  rintro ⟨before, after, hsplit, -⟩
  simp at hsplit

theorem requested_snoc {x : CancelStep} :
    Requested (steps ++ [x]) n ↔ Requested steps n ∨ (x = .cancel ∧ (run {} steps).handle = some n)
    := by
  constructor
  · rintro ⟨before, after, hsplit, hhandle⟩
    rcases List.eq_nil_or_concat after with rfl | ⟨front, last, rfl⟩
    · obtain ⟨rfl, hx⟩ := List.append_inj' hsplit rfl
      exact .inr ⟨List.singleton_inj.mp hx, hhandle⟩
    · rw [List.concat_eq_append, ← List.cons_append, ← List.append_assoc] at hsplit
      obtain ⟨rfl, -⟩ := List.append_inj' hsplit rfl
      exact .inl ⟨before, front, rfl, hhandle⟩
  · rintro (⟨before, after, rfl, hhandle⟩ | ⟨rfl, hhandle⟩)
    · exact ⟨before, after ++ [x], by simp, hhandle⟩
    · exact ⟨steps, [], rfl, hhandle⟩

/-- A request stands. -/
theorem Requested.append (h : Requested steps n) (later : List CancelStep) :
    Requested (steps ++ later) n := by
  obtain ⟨before, after, rfl, hhandle⟩ := h
  exact ⟨before, after ++ later, by simp, hhandle⟩

/-- What is known of a state holds after any steps. -/
theorem sound_run (steps : List CancelStep) : (run {} steps).Sound (Requested steps) := by
  induction steps using List.reverseRecOn with
  | nil => exact Sound.empty.of_iff fun n => iff_false_intro (not_requested_nil n)
  | append_singleton steps x ih =>
    rw [run_append]
    exact (ih.step x).of_iff fun n => requested_snoc

end CancelState
end LabLifecycle
