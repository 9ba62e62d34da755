import TopicLog.Proofs.Repairs

/-!
What polls leave behind that fail. A transaction that did not commit leaves no trace, so the next poll
meets what this one met.
-/
namespace TopicLog

/-- A poll that fails or is dropped leaves no trace, unless it met a row that cannot be decoded. It
hands over the first rows that it fetched; a message that is refused is the last of them and names the
failure. With steps of other transactions in between, the step that commits is the only one that
changes what is committed, and no poll takes it that fails for another reason. -/
theorem failed_poll_leaves_no_trace {σ : Type} (subscriber : Subscriber) (topic : String)
    (handler : Handler σ) (state : σ) (storage : Storage) (fresh : storage.Fresh) :
    let result := (subscriber.poll topic handler state storage).1
    let after := (subscriber.poll topic handler state storage).2.2
    let journal := subscriber.journal topic handler state storage
    journal.handed.map (fun given => Except.ok given.1) =
        (journal.fetched.take journal.handed.length).map subscriber.decode ∧
      (∀ delivery text, (delivery, some (.refused text)) ∈ journal.handed →
        journal.handed.getLast? = some (delivery, some (.refused text)) ∧
        result = some (.error (.handler delivery.offset (.other text))) ∧
        Subscriber.Traceless storage after) ∧
      (∀ delivery, (delivery, none) ∈ journal.handed →
        journal.handed.getLast? = some (delivery, none) ∧ result = none ∧
        Subscriber.Traceless storage after) ∧
      (∀ command fault, .executed command (.error fault) ∈ journal →
        result = some (.error (.ofFault fault)) ∧ Subscriber.Traceless storage after) ∧
      (∀ failure, subscriber.pollScript? topic = .error failure →
        result = some (.error failure) ∧ Subscriber.Traceless storage after) ∧
      ((∀ count, result ≠ some (.ok count)) →
        ¬ subscriber.Undecodable topic journal.fetched journal result →
        Subscriber.Traceless storage after) ∧
      (∀ script, subscriber.pollScript? topic = .ok script →
        ∀ way ending, script.Goes way ending → way.isCommitted = true →
          (∃ count, ending = some (.ok count)) ∨
            subscriber.Undecodable topic way.fetched way ending) ∧
      ∀ (script : Script (Except Failure Nat)) (handle : Handle) (verdict : Verdict)
        (amid : Storage),
        (script.advance handle verdict amid).journal.isCommitted = false →
        (script.advance handle verdict amid).storage.committed = amid.committed ∧
          ∀ other, other ≠ handle →
            (script.advance handle verdict amid).storage.held? other = amid.held? other := by
  intro result after journal
  have delivers : subscriber.Delivers topic journal.fetched 0 journal result :=
    subscriber.journal_delivers topic handler state storage
  have traceless : ¬ journal.isCommitted = true → Subscriber.Traceless storage after := fun open_ =>
    Subscriber.poll_uncommitted fresh (Bool.eq_false_iff.mpr open_)
  refine ⟨delivers.first, ?_, ?_, ?_, ?_, ?_, ?_, ?_⟩
  · intro delivery text member
    obtain ⟨last, failure⟩ := delivers.refused delivery text member
    refine ⟨last, failure, traceless fun committed => ?_⟩
    cases (delivers.clean committed).accepted _ member
  · intro delivery member
    obtain ⟨last, none⟩ := delivers.hung delivery member
    refine ⟨last, none, traceless fun committed => ?_⟩
    cases (delivers.clean committed).accepted _ member
  · intro command fault member
    refine ⟨delivers.faulted command fault member, traceless fun committed => ?_⟩
    exact (delivers.clean committed).executed command fault member
  · intro failure unbuilt
    have nothing : journal = [] := by
      simp only [journal, Subscriber.journal, unbuilt]
    refine ⟨?_, traceless ?_⟩
    · simp only [result, Subscriber.poll, unbuilt]
    · rw [nothing]
      exact Bool.false_ne_true
  · intro failed unmet
    apply traceless
    intro committed
    rcases delivers.committed committed with ⟨-, counted⟩ | undecodable
    · exact failed _ counted
    · exact unmet undecodable
  · intro script built way ending goes committed
    rcases (Subscriber.poll_delivers built goes).committed committed with
      ⟨-, counted⟩ | undecodable
    · exact .inl ⟨_, counted⟩
    · exact .inr undecodable
  · intro script handle verdict amid uncommitted
    exact ⟨script.advance_committed handle verdict amid uncommitted,
      (script.advance_elsewhere handle verdict amid).held⟩

def twoMessages : Storage :=
  let publisher : Publisher := { layout := Namings.usual.layout defaultBatchSize .json }
  let member : Member := { settings := { group := "billing" } }
  let published := publisher.publish "orders" [{ payload := [1] }, { payload := [2] }]
    { clock := newYear }
  ((member.subscriber .usual).setUp "orders" published.2.2).2.begin.2

def refuseSecond : Handler Unit := fun delivery state =>
  (some (if delivery.offset = 2 then .refused "no stock" else .accepted), state)

/-- The first message was accepted and acknowledged when the second one is refused. Whether the other
transaction then ends or the topic is set up once more, the next poll is as it would have been. -/
theorem failed_poll_leaves_no_trace_refused :
    let subscriber := Member.subscriber { settings := { group := "billing" } } .usual
    let after := (subscriber.poll "orders" refuseSecond () twoMessages).2.2
    let next (storage : Storage) := (subscriber.poll "orders" refuseSecond () storage).1
    twoMessages.Fresh ∧
      (subscriber.journal "orders" refuseSecond () twoMessages).handed.map
          (fun given => (given.1.offset, given.2)) =
        [(1, some .accepted), (2, some (.refused "no stock"))] ∧
      (subscriber.poll "orders" refuseSecond () twoMessages).1 =
        some (.error (.handler 2 (.other "no stock"))) ∧
      Subscriber.Traceless twoMessages after ∧
      (∀ other, next (after.rollback other) = next (twoMessages.rollback other) ∧
        next (after.commit other) = next (twoMessages.commit other)) ∧
      next (subscriber.setUp "orders" after).2 = next (subscriber.setUp "orders" twoMessages).2 := by
  intro subscriber after next
  have fresh : twoMessages.Fresh := by
    unfold Storage.Fresh
    decide +kernel
  have handed : (subscriber.journal "orders" refuseSecond () twoMessages).handed.map
      (fun given => (given.1.offset, given.2)) =
      [(1, some .accepted), (2, some (.refused "no stock"))] := by decide +kernel
  have second : (2, some (.refused "no stock")) ∈
      (subscriber.journal "orders" refuseSecond () twoMessages).handed.map
        fun given => (given.1.offset, given.2) := by
    rw [handed]
    simp
  obtain ⟨⟨delivery, verdict⟩, member, same⟩ := List.mem_map.mp second
  obtain ⟨offset, refused⟩ := Prod.mk.inj same
  subst refused
  obtain ⟨-, failure, traceless⟩ := (failed_poll_leaves_no_trace subscriber "orders" refuseSecond ()
    twoMessages fresh).2.1 delivery "no stock" member
  have isSecond : delivery.offset = 2 := offset
  have plain : subscriber.Plain "orders" := Member.plain _ .usual "orders"
  have same (repair : Storage → Storage) (outward : Storage.Outward repair) :
      next (repair after) = next (repair twoMessages) :=
    (traceless.next outward plain refuseSecond ()).1
  refine ⟨fresh, handed, ?_, traceless, fun other => ⟨?_, ?_⟩, ?_⟩
  · rw [failure, isSecond]
  · exact same (·.rollback other) (Storage.outward_rollback other)
  · exact same (·.commit other) (Storage.outward_commit other)
  · exact same (fun storage => (subscriber.setUp "orders" storage).2)
      (Storage.outward_setUp "orders" _)

end TopicLog
