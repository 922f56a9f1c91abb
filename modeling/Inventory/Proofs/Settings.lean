import Inventory.Connection
import Inventory.Settings
import Mathlib.Data.List.SplitBy
import Mathlib.Data.List.TakeWhile
import Mathlib.Tactic.Common

/-! What settings are once they have been accepted. Hosts, brokers and topic are names without blanks around them, the
keyspace stays one word in the statement that creates it, there is a name for transactions or none is wanted, and a
dispatch is attempted once at least. Only the hosts may all be missing: a variable with nothing but commas in it has a
value, and then each of its pieces is dropped. -/
namespace Inventory

namespace Text

theorem forall_mem_trimChars {holds : Char → Prop} (blanks : ∀ character, isBlank character = true → holds character)
    (text : List Char) :
    (∀ character ∈ trimChars text, holds character) ↔ ∀ character ∈ text, holds character := by
  have shortened (text : List Char) :
      (∀ character ∈ text.dropWhile isBlank, holds character) ↔ ∀ character ∈ text, holds character := by
    conv_rhs => rw [← List.takeWhile_append_dropWhile (p := isBlank) (l := text)]
    rw [List.forall_mem_append]
    exact (and_iff_right fun _ member => blanks _ (List.mem_takeWhile_imp member)).symm
  rw [trimChars]
  simp only [List.mem_reverse, shortened]

theorem trimChars_eq_nil {text : List Char} : trimChars text = [] ↔ ∀ character ∈ text, isBlank character = true := by
  constructor
  · intro empty
    refine (forall_mem_trimChars (fun _ blank => blank) text).mp ?_
    rw [empty]
    exact List.forall_mem_nil _
  · intro blank
    rw [trimChars, List.dropWhile_eq_nil_iff.mpr blank]
    rfl

/-- There is something in a text, and no blanks are around it. -/
def Named (text : String) : Prop :=
  text ≠ "" ∧ Trimmed text.toList

instance (text : String) : Decidable (Named text) :=
  inferInstanceAs (Decidable (_ ∧ _))

theorem trim_ne_empty {text : String} : trim text ≠ "" ↔ ∃ character ∈ text.toList, isBlank character = false := by
  rw [Ne, ← String.toList_inj, trim, String.toList_ofList, String.toList_empty, trimChars_eq_nil]
  simp only [not_forall, Bool.not_eq_true, exists_prop]

end Text

namespace Settings

theorem isKeyspaceChar_iff {character : Char} : isKeyspaceChar character = true ↔
    ('a' ≤ character ∧ character ≤ 'z') ∨ ('A' ≤ character ∧ character ≤ 'Z') ∨
      ('0' ≤ character ∧ character ≤ '9') ∨ character = '_' := by
  delta isKeyspaceChar Char.isAlphanum Char.isAlpha Char.isUpper Char.isLower Char.isDigit
  simp only [Bool.or_eq_true, Bool.and_eq_true, decide_eq_true_eq, beq_iff_eq, ge_iff_le, Char.le_def]
  tauto

end Settings

namespace Connection
open Settings (isKeyspaceChar)

/-- The words of a statement, and between them all other characters one by one. -/
def words (statement : String) : List (List Char) :=
  statement.toList.splitBy fun one next => isKeyspaceChar one && isKeyspaceChar next

theorem words_append {front behind : String} (apart : ∀ last ∈ front.toList.getLast?, ∀ first ∈ behind.toList.head?,
    (isKeyspaceChar last && isKeyspaceChar first) = false) : words (front ++ behind) = words front ++ words behind := by
  unfold words
  rw [String.toList_append, List.splitBy_append apart]

theorem words_createKeyspace {keyspace : String} (filled : keyspace ≠ "")
    (plain : ∀ character ∈ keyspace.toList, isKeyspaceChar character = true) :
    words (createKeyspace keyspace) = words creation ++ keyspace.toList :: words replication := by
  have one : words keyspace = [keyspace.toList] := by
    refine List.splitBy_of_isChain (by simpa using filled) ?_
    refine List.Pairwise.isChain (List.pairwise_of_forall_mem_list fun first member next later => ?_)
    simp [plain first member, plain next later]
  have front : creation.toList.getLast? = some ' ' := rfl
  have back : replication.toList.head? = some ' ' := rfl
  have blank : isKeyspaceChar ' ' = false := rfl
  rw [createKeyspace, String.append_assoc, words_append, words_append, one, List.singleton_append]
  · rintro last - first begins
    rw [back, Option.mem_some_iff] at begins
    rw [← begins, blank, Bool.and_false]
  · rintro last ends first -
    rw [front, Option.mem_some_iff] at ends
    rw [← ends, blank, Bool.false_and]

end Connection

namespace Settings
variable {lookup : String → Option String} {name : String}

theorem value?_eq_some {value : String} : value? lookup name = some value ↔
    ∃ text, lookup name = some text ∧ value = Text.trim text ∧ value ≠ "" := by
  unfold value?
  cases lookup name with
  | none => simp
  | some text =>
    by_cases empty : Text.trim text = ""
    · simp [empty]
    · simp only [String.isEmpty_iff, empty, if_false, Option.some.injEq, exists_eq_left']
      constructor
      · rintro rfl
        exact ⟨rfl, empty⟩
      · rintro ⟨rfl, _⟩
        rfl

theorem named_of_value? {value : String} (found : value? lookup name = some value) : Text.Named value := by
  obtain ⟨text, _, rfl, filled⟩ := value?_eq_some.mp found
  exact ⟨filled, Text.trimmed_trim text⟩

theorem named_getD {default : String} (named : Text.Named default) :
    Text.Named ((value? lookup name).getD default) := by
  cases found : value? lookup name with
  | none => exact named
  | some value => exact named_of_value? found

theorem checked_eq_ok {Value : Type} {default value : Value} {read : String → String → Except Invalid Value}
    (accepted : checked lookup name default read = .ok value) :
    value = default ∨ ∃ text, value? lookup name = some text ∧ read name text = .ok value := by
  unfold checked at accepted
  split at accepted
  next => exact .inl (Except.ok.inj accepted).symm
  next text found => exact .inr ⟨text, found, accepted⟩

theorem readKeyspace_eq_ok {text keyspace : String} (accepted : readKeyspace name text = .ok keyspace) :
    keyspace = text ∧ ∀ character ∈ keyspace.toList, isKeyspaceChar character = true := by
  unfold readKeyspace at accepted
  split at accepted
  next plain =>
    cases accepted
    exact ⟨rfl, List.all_eq_true.mp plain⟩
  next => cases accepted

theorem readTransactionalId_eq_some {text id : String} : readTransactionalId text = some id ↔
    id = text ∧ text.toList.map Char.toLower ≠ "none".toList := by
  unfold readTransactionalId
  split
  next off => simp only [off, ne_eq, not_true_eq_false, and_false, reduceCtorEq]
  next on => simp only [Option.some.injEq, ne_eq, on, not_false_eq_true, and_true, eq_comm]

theorem forall_mem_pieces {holds : Char → Prop} (text : List Char) :
    (∀ piece ∈ pieces text, ∀ character ∈ piece, holds character) ↔
      ∀ character ∈ text, character ≠ ',' → holds character := by
  induction text with
  | nil => simp [pieces]
  | cons first rest ih =>
    rw [pieces, List.forall_mem_cons, ← ih]
    split
    next comma => simp [comma]
    next other =>
      split
      next none => simp [none, other]
      next piece more split => simp [split, other, and_assoc]

theorem mem_hosts {text host : String} : host ∈ hosts text ↔
    ∃ piece ∈ pieces text.toList, Text.trimChars piece ≠ [] ∧ String.ofList (Text.trimChars piece) = host := by
  simp [hosts, List.mem_filterMap]

theorem named_of_mem_hosts {text host : String} (member : host ∈ hosts text) :
    Text.Named host ∧ ',' ∉ host.toList := by
  obtain ⟨piece, inside, filled, rfl⟩ := mem_hosts.mp member
  have whole : ∀ character ∈ piece, character ≠ ',' :=
    (forall_mem_pieces text.toList).mpr (fun _ _ other => other) piece inside
  have kept : ∀ character ∈ Text.trimChars piece, character ≠ ',' :=
    (Text.forall_mem_trimChars (fun _ blank comma => by rw [comma] at blank; cases blank) piece).mpr whole
  rw [Text.Named, String.toList_ofList]
  refine ⟨⟨?_, Text.trimmed_trimChars piece⟩, fun comma => kept _ comma rfl⟩
  rwa [Ne, ← String.toList_inj, String.toList_ofList]

theorem hosts_eq_nil {text : String} :
    hosts text = [] ↔ ∀ character ∈ text.toList, character = ',' ∨ Text.isBlank character = true := by
  have dropped : hosts text = [] ↔ ∀ piece ∈ pieces text.toList, Text.trimChars piece = [] := by
    simp [hosts, List.filterMap_eq_nil_iff]
  simp only [dropped, Text.trimChars_eq_nil, forall_mem_pieces, or_iff_not_imp_left]

/-- Settings that can be worked with, as far as that shows from themselves. -/
structure Usable (settings : Settings) : Prop where
  hosts : ∀ host ∈ settings.databaseHosts, Text.Named host ∧ ',' ∉ host.toList
  brokers : Text.Named settings.brokers
  topic : Text.Named settings.topic
  keyspace_ne : settings.keyspace ≠ ""
  keyspace_plain : ∀ character ∈ settings.keyspace.toList,
    ('a' ≤ character ∧ character ≤ 'z') ∨ ('A' ≤ character ∧ character ≤ 'Z') ∨
      ('0' ≤ character ∧ character ≤ '9') ∨ character = '_'
  /-- Whatever the keyspace is, the statement that creates it has the same other words, and none more. -/
  statement : Connection.words (Connection.createKeyspace settings.keyspace) =
    Connection.words Connection.creation ++ settings.keyspace.toList :: Connection.words Connection.replication
  transactions : ∀ id, settings.transactionalId = some id →
    id ≠ "" ∧ id.toList.map Char.toLower ≠ "none".toList
  /-- Clients of the broker are told just these. -/
  broker : settings.broker =
    { brokers := settings.brokers, topic := settings.topic, transactionalId := settings.transactionalId }
  attempts : 1 ≤ settings.dispatchRetry.maxAttempts

theorem ofLookup_eq_ok {settings : Settings} (accepted : ofLookup lookup = .ok settings) :
    checked lookup "SCYLLA_KEYSPACE" defaults.keyspace readKeyspace = .ok settings.keyspace ∧
      settings.brokers = (value? lookup "KAFKA_BROKERS").getD defaults.brokers ∧
      settings.databaseHosts = ((value? lookup "SCYLLA_HOSTS").map Settings.hosts).getD defaults.databaseHosts ∧
      settings.topic = (value? lookup "EVENTS_TOPIC").getD defaults.topic ∧
      settings.transactionalId = match value? lookup "KAFKA_TRANSACTIONAL_ID" with
        | none => defaults.transactionalId
        | some value => readTransactionalId value := by
  unfold ofLookup at accepted
  split at accepted
  next => cases accepted
  next keyspace plain =>
    split at accepted
    next => cases accepted
    next =>
      split at accepted
      next => cases accepted
      next =>
        cases accepted
        exact ⟨plain, rfl, rfl, rfl, rfl⟩

theorem usable_of_accepted {settings : Settings} (accepted : ofLookup lookup = .ok settings) : settings.Usable := by
  obtain ⟨keyspace, brokers, hosts, topic, transactions⟩ := ofLookup_eq_ok accepted
  have word : settings.keyspace ≠ "" ∧
      ∀ character ∈ settings.keyspace.toList, isKeyspaceChar character = true := by
    rcases checked_eq_ok keyspace with default | ⟨text, found, read⟩
    · rw [default]
      exact ⟨by decide, List.all_eq_true.mp (by decide)⟩
    · obtain ⟨same, plain⟩ := readKeyspace_eq_ok read
      exact ⟨same ▸ (named_of_value? found).1, plain⟩
  obtain ⟨filled, plain⟩ := word
  exact
    { hosts := by
        rw [hosts]
        cases value? lookup "SCYLLA_HOSTS" with
        | none => exact List.forall_mem_singleton.mpr ⟨by decide, by decide⟩
        | some value => exact fun _ => named_of_mem_hosts
      brokers := brokers ▸ named_getD (by decide)
      topic := topic ▸ named_getD (by decide)
      keyspace_ne := filled
      keyspace_plain := fun character member => isKeyspaceChar_iff.mp (plain character member)
      statement := Connection.words_createKeyspace filled plain
      transactions := by
        rw [transactions]
        split
        next => exact fun id same => Option.some.inj same ▸ by decide
        next value found =>
          intro id same
          obtain ⟨rfl, other⟩ := readTransactionalId_eq_some.mp same
          exact ⟨(named_of_value? found).1, other⟩
      broker := rfl
      attempts := Nat.le_max_right .. }

/-- There are hosts unless their variable has a comma, and nothing but commas and blanks. -/
theorem databaseHosts_eq_nil {settings : Settings} (accepted : ofLookup lookup = .ok settings) :
    settings.databaseHosts = [] ↔ ∃ text, lookup "SCYLLA_HOSTS" = some text ∧ ',' ∈ text.toList ∧
      ∀ character ∈ text.toList, character = ',' ∨ Text.isBlank character = true := by
  have emptied : settings.databaseHosts = [] ↔
      ∃ text, value? lookup "SCYLLA_HOSTS" = some text ∧ Settings.hosts text = [] := by
    obtain ⟨-, -, hosts, -, -⟩ := ofLookup_eq_ok accepted
    rw [hosts]
    cases value? lookup "SCYLLA_HOSTS" <;> simp [defaults]
  rw [emptied]
  constructor
  · rintro ⟨value, found, none⟩
    obtain ⟨text, held, rfl, filled⟩ := value?_eq_some.mp found
    rw [hosts_eq_nil, Text.trim, String.toList_ofList, Text.forall_mem_trimChars fun _ => .inr] at none
    obtain ⟨character, member, other⟩ := Text.trim_ne_empty.mp filled
    have comma := (none character member).resolve_right (by rw [other]; decide)
    exact ⟨text, held, comma ▸ member, none⟩
  · rintro ⟨text, held, comma, only⟩
    refine ⟨Text.trim text, value?_eq_some.mpr ⟨text, held, rfl, Text.trim_ne_empty.mpr ⟨',', comma, rfl⟩⟩, ?_⟩
    rw [hosts_eq_nil, Text.trim, String.toList_ofList, Text.forall_mem_trimChars fun _ => .inr]
    exact only

/-- Accepted settings can be worked with in all that is asked of them one by one, but there may be no hosts: just where
their variable has a comma, and nothing but commas and blanks. -/
theorem accepted_usable {settings : Settings} (accepted : ofLookup lookup = .ok settings) :
    settings.Usable ∧ (settings.databaseHosts = [] ↔ ∃ text, lookup "SCYLLA_HOSTS" = some text ∧ ',' ∈ text.toList ∧
      ∀ character ∈ text.toList, character = ',' ∨ Text.isBlank character = true) :=
  ⟨usable_of_accepted accepted, databaseHosts_eq_nil accepted⟩

/-- Blanks, empty pieces, the word for no transactions and no attempts at all. -/
def untidy : String → Option String
  | "SCYLLA_HOSTS" => some " , a:9042 ,,b:9042 "
  | "SCYLLA_KEYSPACE" => some " Home_1"
  | "KAFKA_TRANSACTIONAL_ID" => some "NoNe"
  | "EVENTS_TOPIC" => some " "
  | "DISPATCH_MAX_ATTEMPTS" => some "0"
  | _ => none

theorem accepted_usable_untidy : ∃ settings, ofLookup untidy = .ok settings ∧
    settings.databaseHosts = ["a:9042", "b:9042"] ∧ settings.transactionalId = none ∧ settings.Usable := by
  have accepted : ofLookup untidy = .ok { defaults with
      databaseHosts := ["a:9042", "b:9042"], keyspace := "Home_1", transactionalId := none, maxAttempts := 0 } := rfl
  exact ⟨_, accepted, rfl, rfl, (accepted_usable accepted).1⟩

/-- Where the hosts are nothing but a comma, the settings are accepted without any. -/
theorem hostless : ¬ ∀ lookup settings, ofLookup lookup = .ok settings → settings.databaseHosts ≠ [] := by
  intro always
  have accepted : ofLookup (fun name => if name = "SCYLLA_HOSTS" then some "," else none) =
      .ok { defaults with databaseHosts := [] } := rfl
  exact always _ _ accepted rfl

end Settings

end Inventory
