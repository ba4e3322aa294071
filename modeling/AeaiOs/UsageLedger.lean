import AeaiOs.AiReview
import AeaiOs.Lib.HalfEven

/-!
The ledger of the costs of model calls: one JSON line for each reservation and each settlement,
read again before the next reservation.
-/
namespace UsageLedger
open OrderedDict RunValues AiReview HalfEven

/-- `json.dumps(entry, sort_keys=True, separators=(",", ":"))` -/
class JsonLines extends JsonRuntime where
  dumps : PyDict → String

/-- The file as its reader meets it: the lines, each with its line end, and the exception that
    stops the reading when the bytes after them are no text. -/
structure LedgerFile where
  lines : List String
  broken : Option PyException
  deriving DecidableEq

section operations
variable [JsonLines]

/-- `stream.write(text)` at the end of the file, where a last line may lack its line end. -/
def LedgerFile.write (file : LedgerFile) (text : String) : LedgerFile :=
  match file.lines.getLast? with
  | none => { file with lines := [text] }
  | some last =>
      if last.toList.getLast? = some '\n' then { file with lines := file.lines ++ [text] }
      else { file with lines := file.lines.dropLast ++ [last ++ text] }

/-- `_append` -/
def LedgerFile.append (file : LedgerFile) (entry : PyDict) : LedgerFile :=
  file.write (JsonLines.dumps entry ++ "\n")

/-- `_monthly_reserved` of the file. -/
def readMonth (month : String) (file : LedgerFile) : Except PyException Rat :=
  match monthlyReserved month file.lines, file.broken with
  | .ok total, none => .ok total
  | .ok _, some e => .error e
  | .error e, _ => .error e

/-- The arguments of `reserve` and the time of its entry. -/
structure Reserve where
  requestId : String
  runId : String
  month : String
  estimate : Rat
  cap : Rat
  time : String

def Reserve.entry (request : Reserve) : PyDict :=
  [("action", .str "reserve"), ("month", .str request.month),
    ("request_id", .str request.requestId), ("run_id", .str request.runId),
    ("cost_usd", .float (roundTo 9 request.estimate)), ("at", .str request.time)]

/-- `1e-12` -/
def slack : Rat := 1 / 1000000000000

/-- `UsageLedger.reserve`, with the file that it leaves. -/
def reserve (file : LedgerFile) (request : Reserve) : LedgerFile × Except PyException Unit :=
  match readMonth request.month file with
  | .ok total =>
      if request.cap + slack < total + request.estimate then (file, .error .llmBudgetExceeded)
      else (file.append request.entry, .ok ())
  | .error e => (file, catchOsError (.error .llmBudgetExceeded) (.error e))

/-- The arguments of `settle` and the time of its entry. -/
structure Settle where
  requestId : String
  month : String
  cost : Rat
  source : String
  time : String

def Settle.entry (settlement : Settle) : PyDict :=
  [("action", .str "settle"), ("month", .str settlement.month),
    ("request_id", .str settlement.requestId), ("cost_usd", .float (roundTo 9 settlement.cost)),
    ("usage_source", .str settlement.source), ("at", .str settlement.time)]

/-- `UsageLedger.settle`, which does not read the file. -/
def settle (file : LedgerFile) (settlement : Settle) : LedgerFile := file.append settlement.entry

theorem reserve_refused {file file' : LedgerFile} {request : Reserve} {e : PyException}
    (refused : reserve file request = (file', .error e)) : file' = file := by
  unfold reserve at refused
  split at refused
  · split at refused
    · exact (congrArg Prod.fst refused).symm
    · cases refused
  · exact (congrArg Prod.fst refused).symm

/-! What a line does to the reader. -/

/-- The line is an entry of the month. -/
def OfMonth (month line : String) (entry : PyDict) : Prop :=
  JsonRuntime.loads line = .ok (.dict entry) ∧
    ∃ text, lookupEntries entry "month" = some (.str text) ∧ text = month

/-- `entry.get("action") in {"reserve", "settle"}` -/
def Booking (entry : PyDict) : Prop :=
  ∃ action, lookupEntries entry "action" = some (.str action) ∧
    (action = "reserve" ∨ action = "settle")

/-- A reservation or a settlement with the name of its request and an amount in range. -/
def ValidEntry (entry : PyDict) : Prop :=
  Booking entry ∧ ∃ requestId cost amount,
    lookupEntries entry "request_id" = some (.str requestId) ∧
    lookupEntries entry "cost_usd" = some cost ∧ JsonRuntime.toFloat cost = .ok (some amount) ∧
    0 ≤ amount ∧ amount ≤ 10000

def EntriesValid (month : String) (lines : List String) : Prop :=
  ∀ line ∈ lines, ∀ entry, OfMonth month line entry → ValidEntry entry

/-- The lines at which the reader raises, with what it raises. -/
inductive LineRaises (month line : String) : PyException → Prop where
  | unreadable (e : PyException) (raised : JsonRuntime.loads line = .error e) :
      LineRaises month line e
  | notObject (value : PyValue) (loaded : JsonRuntime.loads line = .ok value)
      (other : ∀ entry, value ≠ .dict entry) : LineRaises month line .attributeError
  | unhashable (entry : PyDict) (ofMonth : OfMonth month line entry)
      (container : (∃ items, lookupEntries entry "action" = some (.list items)) ∨
        ∃ items, lookupEntries entry "action" = some (.dict items)) :
      LineRaises month line .typeError
  | missing (entry : PyDict) (ofMonth : OfMonth month line entry) (booking : Booking entry)
      (absent : lookupEntries entry "request_id" = none ∨ lookupEntries entry "cost_usd" = none) :
      LineRaises month line .keyError
  | notNumber (entry : PyDict) (ofMonth : OfMonth month line entry) (booking : Booking entry)
      (requestId cost : PyValue) (named : lookupEntries entry "request_id" = some requestId)
      (priced : lookupEntries entry "cost_usd" = some cost) (e : PyException)
      (raised : JsonRuntime.toFloat cost = .error e) : LineRaises month line e

theorem bookLine_error {month line : String} {costs : Dict String Rat} {e : PyException} :
    bookLine month line costs = .error e ↔ LineRaises month line e := by
  constructor
  · intro failed
    unfold bookLine at failed
    cases loaded : JsonRuntime.loads line with
    | error e' =>
      rw [loaded] at failed
      cases failed
      exact .unreadable e loaded
    | ok value =>
      rw [loaded] at failed
      simp only [bind, Except.bind, pure, Except.pure] at failed
      split at failed
      · rename_i entry
        split at failed
        · rename_i text ofMonth
          split at failed
          · rename_i same
            have member : OfMonth month line entry := ⟨loaded, text, ofMonth, same⟩
            split at failed
            · rename_i items action
              cases failed
              exact .unhashable entry member (.inl ⟨items, action⟩)
            · rename_i items action
              cases failed
              exact .unhashable entry member (.inr ⟨items, action⟩)
            · rename_i action named
              split at failed
              · rename_i either
                have booking : Booking entry := ⟨action, named, either⟩
                split at failed
                · rename_i absent
                  cases failed
                  exact .missing entry member booking (.inl absent)
                · rename_i absent
                  cases failed
                  exact .missing entry member booking (.inr absent)
                · rename_i requestId cost hasId hasCost
                  cases amount : JsonRuntime.toFloat cost with
                  | error e' =>
                    rw [amount] at failed
                    cases failed
                    exact .notNumber entry member booking requestId cost hasId hasCost e amount
                  | ok number =>
                    rw [amount] at failed
                    simp only at failed
                    split at failed
                    · split at failed <;> cases failed
                    · cases failed
              · cases failed
            · cases failed
          · cases failed
        · cases failed
      · rename_i other
        cases failed
        exact .notObject value loaded other
  · intro raises
    unfold bookLine
    cases raises with
    | unreadable e raised => 
      rw [raised]
      rfl
    | notObject value loaded other =>
      rw [loaded]
      cases value with
      | dict entry => exact absurd rfl (other entry)
      | _ => rfl
    | unhashable entry ofMonth container =>
      obtain ⟨loaded, text, named, rfl⟩ := ofMonth
      rw [loaded]
      rcases container with ⟨items, action⟩ | ⟨items, action⟩ <;>
        simp [bind, Except.bind, named, action]
    | missing entry ofMonth booking absent =>
      obtain ⟨loaded, text, named, rfl⟩ := ofMonth
      obtain ⟨action, booked, either⟩ := booking
      rw [loaded]
      simp only [bind, Except.bind, named, booked, if_pos either, if_true]
      rcases absent with absent | absent
      · simp [absent]
      · rw [absent]
        cases lookupEntries entry "request_id" <;> rfl
    | notNumber entry ofMonth booking requestId cost hasId priced e raised =>
      obtain ⟨loaded, text, named, rfl⟩ := ofMonth
      obtain ⟨action, booked, either⟩ := booking
      rw [loaded]
      simp only [bind, Except.bind, named, booked, if_pos either, if_true, hasId, priced, raised]

/-- No line makes the reader raise. -/
def Quiet (month : String) (lines : List String) : Prop :=
  ∀ line ∈ lines, ∀ e, ¬ LineRaises month line e

/-- The reader raises at a line, and at none before it. -/
def FirstRaise (month : String) (lines : List String) (e : PyException) : Prop :=
  ∃ before line rest, lines = before ++ line :: rest ∧ Quiet month before ∧ LineRaises month line e

theorem quiet_or_raise (month : String) (lines : List String) :
    Quiet month lines ∨ ∃ e, FirstRaise month lines e := by
  induction lines with
  | nil =>
    left
    intro line member
    cases member
  | cons line lines ih =>
    by_cases raises : ∃ e, LineRaises month line e
    · obtain ⟨e, raises⟩ := raises
      right
      refine ⟨e, [], line, lines, rfl, ?_, raises⟩
      intro other member
      cases member
    · have here : ∀ e, ¬ LineRaises month line e := fun e found => raises ⟨e, found⟩
      rcases ih with quiet | ⟨e, before, last, rest, rfl, quiet, last_raises⟩
      · left
        intro other member
        rcases List.mem_cons.mp member with rfl | later
        · exact here
        · exact quiet other later
      · right
        refine ⟨e, line :: before, last, rest, rfl, ?_, last_raises⟩
        intro other member
        rcases List.mem_cons.mp member with rfl | later
        · exact here
        · exact quiet other later

theorem bookLines_quiet {month : String} {lines : List String} (quiet : Quiet month lines)
    (rest : List String) (costs : Dict String Rat) :
    ∃ costs', bookLines month (lines ++ rest) costs = bookLines month rest costs' := by
  induction lines generalizing costs with
  | nil => exact ⟨costs, rfl⟩
  | cons line lines ih =>
    cases booked : bookLine month line costs with
    | error e => exact absurd (bookLine_error.mp booked) (quiet line List.mem_cons_self e)
    | ok costs' =>
      obtain ⟨costs'', same⟩ := ih (fun other later => quiet other (List.mem_cons_of_mem _ later)) costs'
      refine ⟨costs'', ?_⟩
      rw [List.cons_append, bookLines, booked]
      exact same

/-- The exception that leaves the loop. -/
def afterLine (e : PyException) : PyException := if e.corrupt then .llmBudgetExceeded else e

theorem readMonth_raise {month : String} {file : LedgerFile} {e : PyException}
    (first : FirstRaise month file.lines e) : readMonth month file = .error (afterLine e) := by
  obtain ⟨before, line, rest, lines, quiet, raises⟩ := first
  obtain ⟨costs, booked⟩ := bookLines_quiet quiet (line :: rest) Dict.empty
  have stopped : bookLines month file.lines Dict.empty = .error (afterLine e) := by
    rw [lines, booked, bookLines, bookLine_error.mpr raises]
    rfl
  unfold readMonth monthlyReserved
  rw [stopped]
  rfl

theorem readMonth_quiet {month : String} {file : LedgerFile} (quiet : Quiet month file.lines) :
    ∃ total, readMonth month file =
      match file.broken with
      | none => .ok total
      | some e => .error e := by
  obtain ⟨costs, booked⟩ := bookLines_quiet quiet [] Dict.empty
  rw [List.append_nil] at booked
  refine ⟨costs.values.foldl (· + ·) 0, ?_⟩
  unfold readMonth monthlyReserved
  rw [booked, bookLines]
  cases file.broken <;> rfl

/-- What `reserve` turns into a refusal, or raises itself. -/
def Refusal (e : PyException) : Prop := e = .osError ∨ e = .llmBudgetExceeded

/-- The reservation is appended behind valid entries only, or refused with the file as it was;
    and a total is made of valid entries only. -/
structure FailsClosed (file : LedgerFile) (request : Reserve) : Prop where
  appended : ∀ file', reserve file request = (file', .ok ()) →
    file' = file.append request.entry ∧ EntriesValid request.month file.lines
  refused : ∀ file' e, reserve file request = (file', .error e) →
    e = .llmBudgetExceeded ∧ file' = file
  counted : ∀ total, readMonth request.month file = .ok total →
    EntriesValid request.month file.lines

/-- The first thing at which the reading stops is a corrupt entry or a failed read; or nothing
    stops it and every entry of the month is valid. -/
def Closed (month : String) (file : LedgerFile) : Prop :=
  (∃ e, FirstRaise month file.lines e ∧ (e.corrupt = true ∨ Refusal e)) ∨
    Quiet month file.lines ∧ ((∃ e, file.broken = some e ∧ Refusal e) ∨
      file.broken = none ∧ EntriesValid month file.lines)

omit [JsonLines] in
theorem catch_refusal (e : PyException) :
    ∃ e', catchOsError (.error .llmBudgetExceeded) (.error e) = (.error e' : Except PyException Unit) ∧
      (e' = .llmBudgetExceeded ↔ Refusal e) := by
  unfold Refusal
  cases e with
  | osError => exact ⟨.llmBudgetExceeded, rfl, by simp⟩
  | llmBudgetExceeded => exact ⟨.llmBudgetExceeded, rfl, by simp⟩
  | _ => exact ⟨_, rfl, by simp⟩

/-- A failed reading leaves the file, and is a refusal if its exception is one. -/
theorem failsClosed_error {file : LedgerFile} {request : Reserve} {e : PyException}
    (failed : readMonth request.month file = .error e) :
    FailsClosed file request ↔ Refusal e := by
  have result : reserve file request =
      (file, catchOsError (.error .llmBudgetExceeded) (.error e)) := by
    unfold reserve
    rw [failed]
  obtain ⟨e', caught, refusal⟩ := catch_refusal e
  rw [caught] at result
  constructor
  · intro closed
    exact refusal.mp (closed.refused file e' result).1
  · intro refuses
    constructor
    · intro file' appended
      rw [result] at appended
      cases appended
    · intro file' other raised
      rw [result] at raised
      cases raised
      exact ⟨refusal.mpr refuses, rfl⟩
    · intro total read
      rw [failed] at read
      cases read

theorem failsClosed_ok {file : LedgerFile} {request : Reserve} {total : Rat}
    (read : readMonth request.month file = .ok total) :
    FailsClosed file request ↔ EntriesValid request.month file.lines := by
  constructor
  · intro closed
    exact closed.counted total read
  · intro valid
    constructor
    · intro file' appended
      unfold reserve at appended
      rw [read] at appended
      simp only at appended
      split at appended
      · cases appended
      · cases appended
        exact ⟨rfl, valid⟩
    · intro file' e refused
      unfold reserve at refused
      rw [read] at refused
      simp only at refused
      split at refused
      · cases refused
        exact ⟨rfl, rfl⟩
      · cases refused
    · intro _ _
      exact valid

omit [JsonLines] in
theorem refusal_afterLine (e : PyException) :
    Refusal (afterLine e) ↔ e.corrupt = true ∨ Refusal e := by
  unfold Refusal afterLine
  cases e <;> simp [PyException.corrupt]

/-- The ledger fails closed exactly with the files described. -/
theorem failsClosed_iff (file : LedgerFile) (request : Reserve) :
    FailsClosed file request ↔ Closed request.month file := by
  unfold Closed
  rcases quiet_or_raise request.month file.lines with quiet | ⟨e, first⟩
  · have unraised : ∀ e, ¬ FirstRaise request.month file.lines e := by
      rintro e ⟨before, line, rest, lines, _, raises⟩
      exact quiet line (by simp [lines]) e raises
    obtain ⟨total, read⟩ := readMonth_quiet quiet
    cases broken : file.broken with
    | none =>
      rw [broken] at read
      rw [failsClosed_ok read]
      simp [unraised, quiet]
    | some e =>
      rw [broken] at read
      rw [failsClosed_error read]
      simp [unraised, quiet]
  · have loud : ¬ Quiet request.month file.lines := by
      obtain ⟨before, line, rest, lines, _, raises⟩ := first
      intro quiet
      exact quiet line (by simp [lines]) e raises
    have read := readMonth_raise first
    rw [failsClosed_error read, refusal_afterLine]
    constructor
    · intro refuses
      exact .inl ⟨e, first, refuses⟩
    · rintro (⟨e', first', refuses⟩ | ⟨quiet, _⟩)
      · have same := read.symm.trans (readMonth_raise first')
        rw [← refusal_afterLine, Except.error.inj same, refusal_afterLine]
        exact refuses
      · exact absurd quiet loud

end operations

/-- A settlement over the largest amount, as a line of the ledger. -/
def largeSettlement : String :=
  "\x7b\"action\":\"settle\",\"cost_usd\":20000,\"month\":\"2026-01\",\"request_id\":\"llm_1\"\x7d\n"

/-- JSON as far as the files below need it. -/
abbrev ledgerJson : JsonLines where
  loads line :=
    if line = "[]\n" then .ok (.list [])
    else if line = largeSettlement then
      .ok (.dict [("action", .str "settle"), ("cost_usd", .int 20000), ("month", .str "2026-01"),
        ("request_id", .str "llm_1")])
    else .error .valueError
  toFloat
    | .int n => .ok (some n)
    | .float q => .ok (some q)
    | _ => .error .typeError
  isDigit c := c.isDigit
  dumps _ := "\x7b\"action\":\"reserve\",\"at\":\"2026-01-05T00:00:00+00:00\",\"cost_usd\":0.5," ++
    "\"month\":\"2026-01\",\"request_id\":\"llm_2\",\"run_id\":\"run-1\"\x7d"

def halfDollar : Reserve where
  requestId := "llm_2"
  runId := "run-1"
  month := "2026-01"
  estimate := 1 / 2
  cap := 4
  time := "2026-01-05T00:00:00+00:00"

/-- A line that is a JSON list raises an `AttributeError`, and a settlement over the largest
    amount is skipped. -/
theorem ledger_open :
    let _ := ledgerJson
    reserve ⟨["[]\n"], none⟩ halfDollar = (⟨["[]\n"], none⟩, .error .attributeError) ∧
      ¬ FailsClosed ⟨["[]\n"], none⟩ halfDollar ∧
      readMonth "2026-01" ⟨[largeSettlement], none⟩ = .ok 0 ∧
      ¬ FailsClosed ⟨[largeSettlement], none⟩ halfDollar := by
  intro _
  have escaped : reserve ⟨["[]\n"], none⟩ halfDollar =
      (⟨["[]\n"], none⟩, .error .attributeError) := by rfl
  have skipped : readMonth "2026-01" ⟨[largeSettlement], none⟩ = .ok 0 := by
    rfl
  refine ⟨escaped, fun closed => ?_, skipped, fun closed => ?_⟩
  · exact absurd (closed.refused _ _ escaped).1 (by decide)
  · have valid := closed.counted 0 skipped largeSettlement List.mem_cons_self _
      ⟨rfl, "2026-01", rfl, rfl⟩
    obtain ⟨_, requestId, cost, amount, _, priced, read, _, most⟩ := valid
    cases priced
    cases read
    exact absurd most (by decide)

end UsageLedger
