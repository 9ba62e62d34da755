import TopicLog.Proofs.Ways

/-!
What becomes of the rows that a poll fetched. The layouts may be any, so each statement may fail to be
built as well as to be run. A poll commits at the end of its batch or at a row that cannot be decoded,
and only if nothing went wrong before.
-/
namespace TopicLog

namespace Journal

/-- The rows that a poll fetched, from the answer of its second statement. -/
def fetched : Journal → List (List Value)
  | .executed _ (.ok _) :: .executed _ (.ok effect) :: _ => effect.rows
  | _ => []

end Journal

/-! How a row fails to be read. -/

section Failures

variable {columns : List Value} {index : Nat} {offset : Int} {failure : Failure}

theorem failed_bind {α β : Type} {wanted : Except Failure α} {next : α → Except Failure β}
    (failed : wanted >>= next = .error failure) :
    wanted = .error failure ∨ ∃ value, wanted = .ok value ∧ next value = .error failure := by
  cases wanted with
  | error first =>
      cases failed
      exact .inl rfl
  | ok value => exact .inr ⟨value, rfl, failed⟩

/-- A reading that only fails by telling the place of a column. -/
def Row.TellsColumn {α : Type} (index : Nat) (read : Except Failure α) : Prop :=
  ∀ failure, read = .error failure → ∃ cause, failure = .scan index cause

theorem Row.failed_column (columns : List Value) (index : Nat) :
    Row.TellsColumn index ((Row.ofColumns columns).int index) ∧
      Row.TellsColumn index ((Row.ofColumns columns).text index) ∧
      Row.TellsColumn index ((Row.ofColumns columns).blob index) := by
  refine ⟨?_, ?_, ?_⟩
  all_goals
    intro failure failed
    simp only [Row.ofColumns] at failed
    split at failed
    all_goals cases failed
    exact ⟨_, rfl⟩

theorem Row.failed_createdAt {text : String} (failed : Row.createdAt offset text = .error failure) :
    ∃ reason cause, failure = .decode (some offset) reason cause := by
  unfold Row.createdAt at failed
  split at failed
  all_goals cases failed
  exact ⟨_, _, rfl⟩

theorem Row.failed_metadata {codec : Codec} {bytes : Option Bytes}
    (failed : Row.metadata codec offset bytes = .error failure) :
    ∃ reason cause, failure = .decode (some offset) reason cause := by
  unfold Row.metadata at failed
  repeat' split at failed
  all_goals cases failed
  exact ⟨_, _, rfl⟩

theorem Row.failed_delivery {codec : Codec}
    (failed : (Row.ofColumns columns).delivery codec = .error failure) :
    (∃ index cause, failure = .scan index cause) ∨
      ∃ offset, (Row.ofColumns columns).int 0 = .ok offset ∧
        ∃ reason cause, failure = .decode (some offset) reason cause := by
  have column := Row.failed_column columns
  -- The columns are read from left to right.
  rcases failed_bind failed with scan | ⟨offset, read, failed⟩
  · exact .inl ⟨0, (column 0).1 _ scan⟩
  rcases failed_bind failed with scan | ⟨uuid, -, failed⟩
  · exact .inl ⟨1, (column 1).2.1 _ scan⟩
  rcases failed_bind failed with scan | ⟨text, -, failed⟩
  · exact .inl ⟨2, (column 2).2.1 _ scan⟩
  rcases failed_bind failed with decode | ⟨createdAt, -, failed⟩
  · exact .inr ⟨offset, read, Row.failed_createdAt decode⟩
  rcases failed_bind failed with scan | ⟨payload, -, failed⟩
  · exact .inl ⟨3, (column 3).2.2 _ scan⟩
  rcases failed_bind failed with scan | ⟨bytes, -, failed⟩
  · exact .inl ⟨4, (column 4).2.2 _ scan⟩
  rcases failed_bind failed with decode | ⟨metadata, -, failed⟩
  · exact .inr ⟨offset, read, Row.failed_metadata decode⟩
  · cases failed

end Failures

namespace Subscriber

variable {σ : Type}

def journal (subscriber : Subscriber) (topic : String) (handler : Handler σ) (state : σ)
    (storage : Storage) : Journal :=
  match subscriber.pollScript? topic with
  | .error _ => []
  | .ok script =>
      script.journal handler storage.beginIsolated.1 state storage.beginIsolated.2

def decode (subscriber : Subscriber) (columns : List Value) : Except Failure Delivery :=
  subscriber.layout.decode (.ofColumns columns)

/-- Every message that was handed over was accepted and could be acknowledged, and no statement
failed. -/
structure Clean (subscriber : Subscriber) (topic : String) (journal : Journal) : Prop where
  accepted : ∀ given ∈ journal.handed, given.2 = some .accepted
  acknowledged : ∀ given ∈ journal.handed, ∃ statement,
    subscriber.cursors.acknowledge topic given.1 subscriber.group = .ok statement
  executed : ∀ command fault, .executed command (.error fault) ∉ journal

/-- A poll that met a row that cannot be decoded, after it delivered all rows before it. -/
structure Undecodable (subscriber : Subscriber) (topic : String) (rows : List (List Value))
    (journal : Journal) (result : PollResult) : Prop where
  clean : subscriber.Clean topic journal
  met : ∃ columns failure, rows[journal.handed.length]? = some columns ∧
    subscriber.decode columns = .error failure ∧ result = some (.error failure)

/-- What becomes of the rows of a batch. -/
structure Delivers (subscriber : Subscriber) (topic : String) (rows : List (List Value))
    (count : Nat) (journal : Journal) (result : PollResult) : Prop where
  first : journal.handed.map (fun given => Except.ok given.1) =
    (rows.take journal.handed.length).map subscriber.decode
  refused : ∀ delivery text, (delivery, some (.refused text)) ∈ journal.handed →
    journal.handed.getLast? = some (delivery, some (.refused text)) ∧
      result = some (.error (.handler delivery.offset (.other text)))
  hung : ∀ delivery, (delivery, none) ∈ journal.handed →
    journal.handed.getLast? = some (delivery, none) ∧ result = none
  faulted : ∀ command fault, .executed command (.error fault) ∈ journal →
    result = some (.error (.ofFault fault))
  committed : journal.isCommitted = true →
    subscriber.Clean topic journal ∧ result = some (.ok (count + rows.length)) ∨
      subscriber.Undecodable topic rows journal result

variable {subscriber : Subscriber} {topic : String} {rows : List (List Value)} {count : Nat}
  {journal : Journal} {result : PollResult}

theorem clean_executed {command : Command} {effect : Effect}
    (clean : subscriber.Clean topic journal) :
    subscriber.Clean topic (.executed command (.ok effect) :: journal) where
  accepted := clean.accepted
  acknowledged := clean.acknowledged
  executed ran fault member := by
    rcases List.mem_cons.mp member with same | later
    · cases same
    · exact clean.executed ran fault later

theorem clean_handed {delivery : Delivery}
    (acknowledges : ∃ statement,
      subscriber.cursors.acknowledge topic delivery subscriber.group = .ok statement)
    (clean : subscriber.Clean topic journal) :
    subscriber.Clean topic (.handed delivery (some .accepted) :: journal) where
  accepted given member := by
    rcases List.mem_cons.mp member with rfl | later
    · rfl
    · exact clean.accepted given later
  acknowledged given member := by
    rcases List.mem_cons.mp member with rfl | later
    · exact acknowledges
    · exact clean.acknowledged given later
  executed ran fault member := by
    rcases List.mem_cons.mp member with same | later
    · cases same
    · exact clean.executed ran fault later

theorem delivers_nothing (unhanded : journal.handed = [])
    (faulted : ∀ command fault, .executed command (.error fault) ∈ journal →
      result = some (.error (.ofFault fault)))
    (uncommitted : journal.isCommitted = false) :
    subscriber.Delivers topic rows count journal result where
  first := by simp [unhanded]
  refused := by simp [unhanded]
  hung := by simp [unhanded]
  faulted := faulted
  committed := by simp [uncommitted]

theorem Delivers.executed {command : Command} {effect : Effect}
    (delivers : subscriber.Delivers topic rows count journal result) :
    subscriber.Delivers topic rows count (.executed command (.ok effect) :: journal) result where
  first := delivers.first
  refused := delivers.refused
  hung := delivers.hung
  faulted ran fault member := by
    rcases List.mem_cons.mp member with same | later
    · cases same
    · exact delivers.faulted ran fault later
  committed ended := by
    rcases delivers.committed ended with ⟨clean, counted⟩ | undecodable
    · exact .inl ⟨clean_executed clean, counted⟩
    · exact .inr ⟨clean_executed undecodable.clean, undecodable.met⟩

theorem Delivers.accepted {columns : List Value} {delivery : Delivery}
    (decodes : subscriber.decode columns = .ok delivery)
    (acknowledges : ∃ statement,
      subscriber.cursors.acknowledge topic delivery subscriber.group = .ok statement)
    (delivers : subscriber.Delivers topic rows (count + 1) journal result) :
    subscriber.Delivers topic (columns :: rows) count
      (.handed delivery (some .accepted) :: journal) result where
  first := by simp [decodes, delivers.first]
  refused given text member := by
    rcases List.mem_cons.mp member with same | later
    · cases same
    · obtain ⟨last, failure⟩ := delivers.refused given text later
      exact ⟨by simp [List.getLast?_cons, last], failure⟩
  hung given member := by
    rcases List.mem_cons.mp member with same | later
    · cases same
    · obtain ⟨last, none⟩ := delivers.hung given later
      exact ⟨by simp [List.getLast?_cons, last], none⟩
  faulted ran fault member := by
    rcases List.mem_cons.mp member with same | later
    · cases same
    · exact delivers.faulted ran fault later
  committed ended := by
    rcases delivers.committed ended with ⟨clean, counted⟩ | ⟨clean, met⟩
    · refine .inl ⟨clean_handed acknowledges clean, ?_⟩
      rw [counted, List.length_cons]
      congr 2
      omega
    · exact .inr ⟨clean_handed acknowledges clean, by simpa using met⟩

theorem delivers_last {columns : List Value} {delivery : Delivery} {verdict : Option Verdict}
    (decodes : subscriber.decode columns = .ok delivery) (ending : Journal)
    (unhanded : ending.handed = [])
    (faulted : ∀ command fault, .executed command (.error fault) ∈ ending →
      result = some (.error (.ofFault fault)))
    (uncommitted : ending.isCommitted = false)
    (refused : ∀ text, verdict = some (.refused text) →
      result = some (.error (.handler delivery.offset (.other text))))
    (hung : verdict = none → result = none) :
    subscriber.Delivers topic (columns :: rows) count (.handed delivery verdict :: ending)
      result where
  first := by simp [unhanded, decodes]
  refused given text member := by
    rw [Journal.handed_cons_handed, unhanded] at member
    cases List.mem_singleton.mp member
    exact ⟨by simp [unhanded], refused text rfl⟩
  hung given member := by
    rw [Journal.handed_cons_handed, unhanded] at member
    cases List.mem_singleton.mp member
    exact ⟨by simp [unhanded], hung rfl⟩
  faulted ran fault member := by
    rcases List.mem_cons.mp member with same | later
    · cases same
    · exact faulted ran fault later
  committed ended := by simp [uncommitted] at ended

open Script in
theorem deliver_delivers
    (goes : (subscriber.deliver topic rows count).Goes journal result) :
    subscriber.Delivers topic rows count journal result := by
  induction rows generalizing count journal with
  | nil =>
      obtain ⟨rfl, rfl⟩ := goes_commit goes
      refine ⟨rfl, nofun, nofun, by simp, fun _ => .inl ⟨⟨nofun, nofun, by simp⟩, rfl⟩⟩
  | cons columns rest ih =>
      unfold Subscriber.deliver at goes
      cases decodes : subscriber.layout.decode (.ofColumns columns) with
      | error failure =>
          rw [decodes] at goes
          obtain ⟨rfl, rfl⟩ := goes_commit goes
          exact ⟨rfl, nofun, nofun, by simp, fun _ => .inr
            ⟨⟨nofun, nofun, by simp⟩, columns, failure, rfl, decodes, rfl⟩⟩
      | ok delivery =>
          rw [decodes] at goes
          -- Up to the handler there are two ways to fail, and none of them hands the row over.
          rcases goes_require goes with ⟨failure, -, rfl, rfl⟩ | ⟨mark, -, marking⟩
          · exact delivers_nothing rfl (by simp) rfl
          rcases goes_statement marking with ⟨fault, rfl, rfl⟩ | ⟨effect, later, rfl, handing⟩
          · exact delivers_nothing rfl (by simp) rfl
          apply Delivers.executed
          -- From here on the row is handed over, and is the last one where anything fails.
          rcases goes_hand handing with ⟨rfl, rfl⟩ | ⟨verdict, later, rfl, judged⟩
          · exact delivers_last decodes [.rolledBack] rfl (by simp) rfl nofun fun _ => rfl
          cases verdict with
          | refused text =>
              obtain ⟨rfl, rfl⟩ := goes_end judged
              refine delivers_last decodes [.rolledBack] rfl (by simp) rfl ?_ nofun
              intro other same
              cases same
              rfl
          | accepted =>
              rcases goes_require judged with ⟨failure, -, rfl, rfl⟩ | ⟨statement, built, ran⟩
              · exact delivers_last decodes [.rolledBack] rfl (by simp) rfl nofun nofun
              rcases goes_statement ran with ⟨fault, rfl, rfl⟩ | ⟨effect, later, rfl, next⟩
              · exact delivers_last decodes _ rfl (by simp) rfl nofun nofun
              exact Delivers.accepted decodes ⟨statement, built⟩ (ih next).executed

theorem pollScript_built {script : Script (Except Failure Nat)}
    (built : subscriber.pollScript? topic = .ok script) :
    ∃ claim fetch, subscriber.cursors.claim topic subscriber.group = .ok claim ∧
      subscriber.layout.fetch topic subscriber.group subscriber.cursors = .ok fetch ∧
      script = subscriber.pollScript topic claim.statement fetch := by
  unfold pollScript? at built
  cases claimed : subscriber.cursors.claim topic subscriber.group with
  | error failure => simp [claimed, bind, Except.bind] at built
  | ok claim =>
      cases fetched : subscriber.layout.fetch topic subscriber.group subscriber.cursors with
      | error failure => simp [claimed, fetched, bind, Except.bind] at built
      | ok fetch =>
          simp only [claimed, fetched, bind, Except.bind, pure, Except.pure] at built
          exact ⟨claim, fetch, rfl, rfl, (Except.ok.inj built).symm⟩

open Script in
/-- Whatever happens between the steps of a poll, it delivers the rows that it fetched. -/
theorem poll_delivers {script : Script (Except Failure Nat)}
    (built : subscriber.pollScript? topic = .ok script) (goes : script.Goes journal result) :
    subscriber.Delivers topic journal.fetched 0 journal result := by
  obtain ⟨claim, fetch, -, -, rfl⟩ := pollScript_built built
  unfold pollScript at goes
  rcases goes_statement goes with ⟨fault, rfl, rfl⟩ | ⟨effect, later, rfl, claimed⟩
  · exact delivers_nothing rfl (by simp) rfl
  rcases goes_require claimed with ⟨failure, -, rfl, rfl⟩ | ⟨bound, -, fetching⟩
  · exact delivers_nothing rfl (by simp) rfl
  rcases goes_statement fetching with ⟨fault, rfl, rfl⟩ | ⟨rows, later, rfl, delivering⟩
  · exact delivers_nothing rfl (by simp) rfl
  · exact (deliver_delivers delivering).executed.executed

theorem journal_delivers (subscriber : Subscriber) (topic : String) (handler : Handler σ) (state : σ)
    (storage : Storage) :
    subscriber.Delivers topic (subscriber.journal topic handler state storage).fetched 0
      (subscriber.journal topic handler state storage)
      (subscriber.poll topic handler state storage).1 := by
  unfold journal poll
  cases built : subscriber.pollScript? topic with
  | error failure => exact delivers_nothing rfl (by simp) rfl
  | ok script => exact poll_delivers built (Script.journal_goes handler _ script state _)

theorem Delivers.clean {rows : List (List Value)} {count : Nat} {journal : Journal}
    {result : PollResult} (delivers : subscriber.Delivers topic rows count journal result)
    (committed : journal.isCommitted = true) : subscriber.Clean topic journal := by
  rcases delivers.committed committed with ⟨clean, -⟩ | undecodable
  · exact clean
  · exact undecodable.clean

end Subscriber

end TopicLog
