import FeeMarket.Proofs.FetchPool.Tally

/-!
# The lookups of a run

No call is made twice for the same number (`Asked`), so whatever the replies were, there is one
table of answers that they follow (`follows_answers`): the replies of a chain that changes between
the lookups are those of some view for each number.
-/

namespace FeeMarket

/-- A lookup for a number asks for the header or the block of just that number, or for the
receipts of a block. -/
def Heard.Named (x : Heard) : Prop :=
  x.call = .header (.number x.number) ∨ x.call = .block (.number x.number) ∨
    ∃ hash, x.call = .receipts hash

namespace Worker

/-- The calls that the worker has already made for the number that it looks up. -/
def asked : Worker → List Call
  | .awaitsReceipts n _ => [.block (.number n)]
  | _ => []

variable {w : Worker} {view : View} {n : UInt64} {x : Heard}

theorem number_of_heard? (hx : w.heard? view = some x) : w.awaited? = some x.number := by
  cases w <;> simp only [heard?, Option.some.injEq, reduceCtorEq] at hx <;> subst hx <;> rfl

theorem call_not_asked (hx : w.heard? view = some x) : x.call ∉ w.asked := by
  cases w <;> simp only [heard?, Option.some.injEq, reduceCtorEq] at hx <;> subst hx <;>
    simp [asked]

theorem reply_of_heard? (hx : w.heard? view = some x) : x.reply = view x.call := by
  cases w <;> simp only [heard?, Option.some.injEq, reduceCtorEq] at hx <;> subst hx <;> rfl

theorem named_of_heard? (hx : w.heard? view = some x) : x.Named := by
  cases w <;> simp only [heard?, Option.some.injEq, reduceCtorEq] at hx <;> subst hx
  · exact .inl rfl
  · exact .inr (.inl rfl)
  · exact .inr (.inr ⟨_, rfl⟩)

theorem awaited?_settle (job : FetchJob) (n : UInt64) (l : Lookup Findings) :
    (job.settle n l).awaited? = none := by
  cases l with
  | absent | failed reason | broken => rfl
  | found f =>
    rw [FetchJob.settle]
    split <;> rfl

/-- A worker that still awaits a reply after it has heard one is on to the receipts. -/
theorem asked_hear {job : FetchJob} {m : UInt64} (hx : w.heard? view = some x)
    (hm : (job.hear view w).awaited? = some m) :
    m = x.number ∧ w.asked = [] ∧ (job.hear view w).asked = [x.call] := by
  cases w with
  | awaitsHeader n | awaitsReceipts n block => simp [FetchJob.hear, awaited?_settle] at hm
  | awaitsBlock n =>
    simp only [heard?, Option.some.injEq] at hx
    subst hx
    simp only [FetchJob.hear] at hm ⊢
    cases hb : view (.block (.number n)) with
    | found block =>
      simp only [hb, awaited?, Option.some.injEq] at hm
      exact ⟨hm.symm, rfl, rfl⟩
    | absent | failed reason | broken => simp [hb, awaited?_settle] at hm
  | idle | cleared | holds d | finished | dead => simp [heard?] at hx

theorem asked_take {job : FetchJob} {m : UInt64} (hm : (job.take n).awaited? = some m) :
    m = n ∧ (job.take n).asked = [] := by
  unfold FetchJob.take at hm ⊢
  split at hm
  · simp [awaited?_settle] at hm
  · split at hm
    · rename_i hp
      simp only [hp, if_true]
      exact ⟨(Option.some.inj hm).symm, rfl⟩
    · rename_i hp
      simp only [hp]
      exact ⟨(Option.some.inj hm).symm, rfl⟩

end Worker

/-! ## Numbers in flight -/

theorem FetchJob.oldest_add_le {job : FetchJob} (hl : job.oldest ≤ job.last) (k : Nat) :
    job.oldest.toNat + min k job.size ≤ UInt64.size := by
  have hlt := job.last.toNat_lt
  have hl' := UInt64.le_iff_toNat_le.1 hl
  simp only [size, UInt64.size]
  omega

theorem FetchJob.oldest_add_size_le {job : FetchJob} (hl : job.oldest ≤ job.last) :
    job.oldest.toNat + job.size ≤ UInt64.size := by
  have := oldest_add_le hl job.size
  omega

namespace Tally

variable {job : FetchJob} {n i : Nat} {view : View} {h : History} {p : FetchPool}

theorem nodup_places (ht : Tally job n h p) (hl : job.oldest ≤ job.last) :
    (h.lost ++ p.inFlight ++ p.deposited).Nodup :=
  ht.places.nodup_iff.2 (nodup_countFrom (FetchJob.oldest_add_le hl _))

theorem mem_claimed_of_inFlight (ht : Tally job n h p) {m : UInt64} (hm : m ∈ p.inFlight) :
    m ∈ countFrom job.oldest (min h.claims.length job.size) :=
  ht.places.subset (List.mem_append_left _ (List.mem_append_right _ hm))

/-- The number in flight with a worker is with no other. -/
theorem alone (ht : Tally job n h p) (hl : job.oldest ≤ job.last) {w w' v : Worker} {m : UInt64}
    (hw : p.workers[i]? = some w) (hm : w.number? = some m) (hv : v ∈ p.workers.set i w') :
    v = w' ∨ v.number? ≠ some m := by
  obtain ⟨j, hj⟩ := List.mem_iff_getElem?.1 hv
  by_cases hij : i = j
  · subst hij
    obtain ⟨hi, -⟩ := List.getElem?_eq_some_iff.1 hw
    rw [List.getElem?_set_self hi] at hj
    exact .inl (Option.some.inj hj).symm
  · refine .inr fun hvm => ?_
    have hswap := filterMap_set_perm Worker.number? (b := .idle) hw
    rw [hm] at hswap
    have hnodup : (m :: (p.workers.set i .idle).filterMap Worker.number?).Nodup :=
      hswap.nodup_iff.2 ((ht.nodup_places hl).of_append_left.of_append_right)
    refine (List.nodup_cons.1 hnodup).1 (List.mem_filterMap.2 ⟨v, ?_, hvm⟩)
    rw [List.getElem?_set_ne hij] at hj
    exact List.mem_iff_getElem?.2 ⟨j, by rw [List.getElem?_set_ne hij]; exact hj⟩

end Tally

/-! ## No call twice -/

/-- No call was made twice for a number, and none that a worker is about to make was made. -/
structure Asked (job : FetchJob) (h : History) (p : FetchPool) : Prop where
  within : ∀ x ∈ h.heard, x.number ∈ countFrom job.oldest (min h.claims.length job.size)
  named : ∀ x ∈ h.heard, x.Named
  distinct : h.heard.Pairwise fun x y => x.number = y.number → x.call ≠ y.call
  own : ∀ w ∈ p.workers, ∀ m, w.awaited? = some m →
    ∀ x ∈ h.heard, x.number = m → x.call ∈ w.asked

namespace Asked

variable {job : FetchJob} {n i : Nat} {view : View} {h : History} {p q : FetchPool} {d : Deed}

theorem start (job : FetchJob) (n : Nat) : Asked job {} (.start job n) where
  within := by simp
  named := by simp
  distinct := .nil
  own := by simp

theorem number_ne_next (ha : Asked job h p) (ht : Tally job n h p) (hl : job.oldest ≤ job.last)
    (room : job.last.toNat + n < UInt64.size) (hw : p.workers[i]? = some .cleared) :
    ∀ x ∈ h.heard, x.number ≠ p.next := by
  intro x hx heq
  have hx' := (mem_countFrom (FetchJob.oldest_add_le hl _)).1 (ha.within x hx)
  rw [heq, (ht.toNat_next hl room hw).2] at hx'
  omega

/-- A turn that hears nothing keeps the calls made, whatever it claims. -/
theorem swap {w' : Worker} (ha : Asked job h p) (hworkers : q.workers = p.workers.set i w')
    (hquiet : d.heard = none) (hown : ∀ m, w'.awaited? = some m →
      ∀ x ∈ h.heard, x.number = m → x.call ∈ w'.asked) : Asked job (h.add d) q where
  within := by
    intro x hx
    have hx' := ha.within x (by simpa [History.add, hquiet] using hx)
    refine countFrom_subset ?_ hx'
    simp only [History.add, List.length_append]
    omega
  named := by simpa [History.add, hquiet] using ha.named
  distinct := by simpa [History.add, hquiet] using ha.distinct
  own := by
    intro v hv
    rw [hworkers] at hv
    rw [History.add, hquiet, Option.toList_none, List.append_nil]
    rcases List.mem_or_eq_of_mem_set hv with hv | rfl
    · exact ha.own v hv
    · exact hown

theorem turn (ha : Asked job h p) (ht : Tally job n h p) (hl : job.oldest ≤ job.last)
    (room : job.last.toNat + n < UInt64.size) (hs : FetchPool.Turned job p i view d q) :
    Asked job (h.add d) q := by
  cases hs with
  | cleared hw hc => exact ha.swap rfl rfl (by simp [Worker.awaited?])
  | dismissed hw hc => exact ha.swap rfl rfl (by simp [Worker.awaited?])
  | deposited hw => exact ha.swap rfl rfl (by simp [Worker.awaited?])
  | overshot hw hn => exact ha.swap rfl rfl (by simp [Worker.awaited?])
  | claimed hw hn =>
    refine ha.swap rfl rfl fun m hm x hx hxm => ?_
    exact absurd (hxm.trans (Worker.asked_take hm).1) (ha.number_ne_next ht hl room hw x hx)
  | @heard w m x hw hm hx =>
    have hxm : x.number = m := Option.some.inj ((Worker.number_of_heard? hx).symm.trans hm)
    have hwin : w ∈ p.workers := List.mem_of_getElem? hw
    have hflight : m ∈ p.inFlight :=
      List.mem_filterMap.2 ⟨w, hwin, Worker.number?_of_awaited? hm⟩
    refine ⟨?_, ?_, ?_, ?_⟩
    · intro y hy
      rcases List.mem_append.1 hy with hy | hy
      · simpa [History.add] using ha.within y hy
      · obtain rfl : y = x := by simpa using hy
        rw [hxm]
        simpa [History.add] using ht.mem_claimed_of_inFlight hflight
    · intro y hy
      rcases List.mem_append.1 hy with hy | hy
      · exact ha.named y hy
      · obtain rfl : y = x := by simpa using hy
        exact Worker.named_of_heard? hx
    · refine List.pairwise_append.2 ⟨ha.distinct, by simp, ?_⟩
      intro y hy z hz hyz hcall
      obtain rfl : z = x := by simpa using hz
      exact Worker.call_not_asked hx (hcall ▸ ha.own w hwin m hm y hy (hyz.trans hxm))
    · intro v hv k hk y hy hyk
      rcases ht.alone hl hw (Worker.number?_of_awaited? hm) hv with rfl | hne
      · obtain ⟨rfl, hnone, hasked⟩ := Worker.asked_hear hx hk
        rw [hasked]
        rcases List.mem_append.1 hy with hy | hy
        · have := ha.own w hwin m hm y hy (hyk.trans hxm)
          simp [hnone] at this
        · obtain rfl : y = x := by simpa using hy
          simp
      · have hkm : k ≠ m := by
          rintro rfl
          exact hne (Worker.number?_of_awaited? hk)
        rcases List.mem_append.1 hy with hy | hy
        · rcases List.mem_or_eq_of_mem_set hv with hv | rfl
          · exact ha.own v hv k hk y hy hyk
          · exact absurd ((Worker.asked_hear hx hk).1.trans hxm) hkm
        · obtain rfl : y = x := by simpa using hy
          exact absurd (hyk.symm.trans hxm) hkm

theorem receive {rest : List Deposit} {received : List Deposit} (ha : Asked job h p) :
    Asked job (h.add {}) { p with queue := rest, received := received } where
  within := by simpa [History.add] using ha.within
  named := by simpa [History.add] using ha.named
  distinct := by simpa [History.add] using ha.distinct
  own := by simpa [History.add] using ha.own

theorem of_reached {enough : List Deposit → Bool} (hl : job.oldest ≤ job.last)
    (room : job.last.toNat + n < UInt64.size)
    (hr : FetchPool.Reached job enough (.start job n) h p) : Asked job h p := by
  have both : Tally job n h p ∧ Asked job h p :=
    hr.invariant (motive := fun h p => Tally job n h p ∧ Asked job h p)
      ⟨.start job n, .start job n⟩
      (fun hi hs => ⟨hi.1.turn hl room hs, hi.2.turn hi.1 hl room hs⟩)
      fun hi hq _ => ⟨hi.1.receive hq, hi.2.receive⟩
  exact both.2

end Asked

/-! ## The answers of a run -/

/-- The reply that there is nothing. -/
def Reply.nothing : (c : Call) → Reply c
  | .header _ => .absent
  | .block _ => .absent
  | .receipts _ => .absent
  | .pending => none
  | .finalized => .absent

/-- The first reply to a call for a number. -/
def Heard.replyTo (n : UInt64) (c : Call) : List Heard → Reply c
  | [] => Reply.nothing c
  | x :: rest => if hx : x.number = n ∧ x.call = c then hx.2 ▸ x.reply else replyTo n c rest

namespace History

/-- The replies of a run as a table: for each number the view that its worker met. What was not
asked is absent. -/
def answers (h : History) (n : UInt64) : View := fun c => Heard.replyTo n c h.heard

/-- The replies of a run are those of a table. -/
def Follows (h : History) (answers : UInt64 → View) : Prop :=
  ∀ x ∈ h.heard, x.reply = answers x.number x.call

namespace Follows

variable {h : History} {job : FetchJob} {p q : FetchPool} {i : Nat} {view : View} {d : Deed}

theorem turn (hf : h.Follows fun _ => view) (turned : FetchPool.Turned job p i view d q) :
    (h.add d).Follows fun _ => view := by
  cases turned with
  | heard hw hn hx =>
    intro y hy
    rw [heard_add] at hy
    rcases List.mem_append.1 hy with hy | hy
    · exact hf y hy
    · obtain rfl := List.mem_singleton.1 hy
      exact Worker.reply_of_heard? hx
  | cleared | dismissed | overshot | claimed | deposited => simpa [Follows, heard_add] using hf

theorem receive (hf : h.Follows fun _ => view) : (h.add {}).Follows fun _ => view := by
  simpa [Follows, heard_add] using hf

end Follows

end History

namespace FetchPool

/-- The turn of a worker over a view, or a receipt. -/
def Move.over (view : View) : Option Nat → Move
  | some i => .turn i view
  | none => .receive

theorem follows_of_replay {job : FetchJob} {enough : List Deposit → Bool} {view : View}
    {turns : List (Option Nat)} {h h' : History} {p p' : FetchPool}
    (hm : replay job enough (turns.map (Move.over view)) h p = some (h', p'))
    (hf : h.Follows fun _ => view) : h'.Follows fun _ => view := by
  induction turns generalizing h p with
  | nil =>
    cases hm
    exact hf
  | cons i? turns ih =>
    cases i? with
    | some i =>
      obtain ⟨q, hq, hm⟩ := Option.bind_eq_some_iff.1 hm
      exact ih hm (hf.turn (turned_of_step hq))
    | none =>
      rw [List.map_cons, Move.over, replay] at hm
      split at hm
      · cases hm
      · obtain ⟨q, -, hm⟩ := Option.bind_eq_some_iff.1 hm
        exact ih hm hf.receive

end FetchPool

theorem Heard.replyTo_of_mem {l : List Heard}
    (hl : l.Pairwise fun x y => x.number = y.number → x.call ≠ y.call) {x : Heard}
    (hx : x ∈ l) :
    replyTo x.number x.call l = x.reply := by
  induction l with
  | nil => cases hx
  | cons y rest ih =>
    obtain ⟨hy, hrest⟩ := List.pairwise_cons.1 hl
    rw [replyTo]
    rcases List.mem_cons.1 hx with rfl | hx
    · rw [dif_pos ⟨rfl, rfl⟩]
    · rw [dif_neg fun h => hy x hx h.1 h.2]
      exact ih hrest hx

/-- **Every run follows a table.** The replies may change from turn to turn in any way. -/
theorem Asked.follows_answers {job : FetchJob} {h : History} {p : FetchPool}
    (ha : Asked job h p) : h.Follows h.answers :=
  fun _ hx => (Heard.replyTo_of_mem ha.distinct hx).symm

end FeeMarket
