import TableQuery.Proofs.Query.Filtering
import TableQuery.Proofs.Query.Rejection
import TableQuery.Proofs.Request.FromJson
import TableQuery.Proofs.Service.Posts

/-! Answers to bodies of plain JSON.
A query of rows in memory, and one that is to be written as addresses, is answered with what it comes
to, or with the fault of the request. Nothing else goes wrong, but that the number of rows to skip may
be too long to be written, where page and size came as text. -/
namespace TableQuery
open Text Value

section
variable {r : Request}

theorem strayOperatorShort (json : r.FromJson) (w : Value)
    (found : r.clauses.findSome? (·.stray) = some w) : w.hasLongInteger = false := by
  obtain ⟨c, member, stray⟩ := List.exists_of_findSome?_eq_some found
  rw [strayIsWord stray]
  exact (json.clauses c member).1.short

theorem strayDirectionShort (json : r.FromJson) (w : Value)
    (found : r.sorting.findSome? (·.stray) = some w) : w.hasLongInteger = false := by
  obtain ⟨k, member, stray⟩ := List.exists_of_findSome?_eq_some found
  rw [strayIsWord stray]
  exact json.directions k member

def Fault.OfRequest (f : Fault) : Prop := f.kind.family = .request

theorem mismatchOfRequest (f : Fault) (mismatch : Mismatch f) : f.OfRequest := by
  rw [Fault.OfRequest, mismatch]
  rfl

theorem arrangeFailsByRequest (json : r.FromJson) {rows : List Value}
    (like : ∀ row ∈ rows, JsonLike row) : FailsWithin Fault.OfRequest (arrange r.sorting rows) := by
  cases stray : r.sorting.findSome? (·.stray) with
  | none => exact (arrangeFails jsonTame stray like).mono mismatchOfRequest
  | some d =>
    rw [arrangeStops stray, Fault.aboutShort (strayDirectionShort json d stray)]
    exact errorFails rfl

theorem keptWithinRows {groups : List FilterGroup} {rows kept : List Value} {row : Value}
    (matched : matching groups rows = .ok kept) (member : row ∈ kept) : row ∈ rows := by
  rw [matchingKeeps matched] at member
  exact List.mem_of_mem_filter member

theorem runFailsByRequest (json : r.FromJson) {rows : List Value}
    (like : ∀ row ∈ rows, JsonLike row) : FailsWithin Fault.OfRequest (r.run rows) := by
  have operators := checkStops r.clauses
  -- Once the operators are looked up, no clause that is tried on a row can stop at one.
  refine bindFails (operators.fails (strayOperatorShort json) fun _ => rfl) fun _ checked => ?_
  have matched := matchingFails jsonTame (operators.known checked)
    (fun c member => (json.clauses c member).2) like
  exact bindFails (matched.mono mismatchOfRequest) fun kept found =>
    bindFails (arrangeFailsByRequest json fun row member => like row (keptWithinRows found member))
      fun _ _ => okFails _

theorem pageWithinRows {rows : List Value} {page : Page} (ran : r.run rows = .ok page) :
    ∀ item ∈ page.items, item ∈ rows := by
  obtain ⟨kept, sorted, matched, arranged, rfl⟩ := runSteps ran
  intro item member
  have inSorted : item ∈ sorted := by
    unfold Request.window at member
    split at member
    · exact member
    · exact List.mem_of_mem_drop (List.mem_of_mem_take member)
  exact keptWithinRows matched ((arrangePermutes arranged).mem_iff.mp inSorted)

end

namespace OData

def SkipShort (r : Request) : Prop :=
  ∀ page size, r.page = some page → r.pageSize = some size →
    tooManyDigits (page * size : Nat) = false

def ShortPairs (pairs : List Pair) : Prop := ∀ p ∈ pairs, p.2.hasLongInteger = false

theorem pairTextsShort {pairs : List Pair} (short : ShortPairs pairs) :
    ∃ texts, pairTexts pairs = .ok texts := by
  induction pairs with
  | nil => exact ⟨[], rfl⟩
  | cons p pairs ih =>
    obtain ⟨name, value⟩ := p
    obtain ⟨first, others⟩ := List.forall_mem_cons.mp short
    obtain ⟨texts, shown⟩ := ih others
    exact ⟨_, by rw [pairTexts, shortTold first, okBind, shown, okBind]⟩

theorem textPairShort (name : String) (text : Option String) : ShortPairs (textPair name text) := by
  cases text <;> simp [ShortPairs, textPair, hasLongInteger]

theorem declaredShort {item : Value} (like : JsonLike item) :
    ∃ found, declared? item = .ok found ∧ ShortPairs found.toList := by
  cases like with
  | dict inside =>
    have name := (jsonTame.get inside "name").told
    have value := (jsonTame.get inside "value").short
    simp only [declared?]
    split
    · rw [name, okBind]
      refine ⟨_, rfl, ?_⟩
      split
      · simp [ShortPairs]
      · simpa [ShortPairs] using value
    · exact ⟨none, rfl, by simp [ShortPairs]⟩
  | _ => exact ⟨none, rfl, by simp [ShortPairs]⟩

theorem declaredPairsShort {items : List Value} (like : ∀ item ∈ items, JsonLike item) :
    ∃ pairs, declaredPairs items = .ok pairs ∧ ShortPairs pairs := by
  induction items with
  | nil => exact ⟨[], rfl, by simp [ShortPairs]⟩
  | cons item items ih =>
    obtain ⟨first, others⟩ := List.forall_mem_cons.mp like
    obtain ⟨found, declared, short⟩ := declaredShort first
    obtain ⟨pairs, rest, shortRest⟩ := ih others
    refine ⟨found.toList ++ pairs, by rw [declaredPairs, declared, okBind, rest, okBind], ?_⟩
    exact fun p member => (List.mem_append.mp member).elim (short p) (shortRest p)

theorem declaredItemsLike {r : Request} (json : r.FromJson) :
    ∀ item ∈ declaredItems r, JsonLike item := by
  have inside : ∀ e ∈ r.args.getD [], JsonLike e.2 := by
    cases given : r.args with
    | none => exact List.forall_mem_nil _
    | some es => exact jsonTame.entries (json.args es given)
  have vars := jsonTame.get inside "vars"
  unfold declaredItems
  split
  · next listed =>
    rw [listed] at vars
    exact jsonTame.members vars rfl
  · exact List.forall_mem_nil _

theorem pagePairsShort (version : Version) {r : Request} (json : r.FromJson) (skip : SkipShort r) :
    ShortPairs (pagePairs version r) := by
  unfold pagePairs
  split
  · next page size numbered sized =>
    have skipped := skip page size numbered sized
    simp only [ShortPairs, List.forall_mem_cons]
    exact ⟨json.size size sized, skipped, rfl, nofun⟩
  · simp [ShortPairs, hasLongInteger]

theorem urlsFailByRequest (version : Version) (url : String) {r : Request} (json : r.FromJson)
    (skip : SkipShort r) :
    FailsWithin (fun f => f.kind.isOwn = true ∧ f.OfRequest) (urls version url r) := by
  have filters := filterStops version fun c member => (json.clauses c member).2.short
  obtain ⟨vars, declared, varsShort⟩ := declaredPairsShort (declaredItemsLike json)
  obtain ⟨paging, paged⟩ := pairTextsShort (pagePairsShort version json skip)
  unfold urls queryPairs
  refine bindFails (bindFails ?_ fun filter _ => bindFails ?_ fun order _ => ?_) fun pairs queried => ?_
  · exact filters.fails (strayOperatorShort json) fun _ => ⟨rfl, rfl⟩
  · exact (orderStops r).fails (strayDirectionShort json) fun _ => ⟨rfl, rfl⟩
  · rw [declared, okBind]
    exact okFails _
  · obtain ⟨filter, -, rest⟩ := bindOk.mp queried
    obtain ⟨order, -, rest⟩ := bindOk.mp rest
    rw [declared, okBind, Except.ok.injEq] at rest
    have short : ShortPairs pairs := by
      rw [← rest]
      simp only [ShortPairs, List.forall_mem_append]
      exact ⟨⟨textPairShort _ filter, textPairShort _ order⟩, varsShort⟩
    obtain ⟨texts, shown⟩ := pairTextsShort short
    rw [shown, okBind, paged, okBind]
    exact okFails _

end OData

namespace Service

theorem requestFaultAnswered {f : Fault} (blamed : f.OfRequest) :
    (faultResponse f).1 = .detail 400 f.message := by
  unfold faultResponse
  rw [blamed]

theorem rowsAnswered {s : Server} {name : String} {rows : List Value} {r : Request}
    (known : s.sources.find? (trimmed name) = some (.rows rows))
    (like : ∀ row ∈ rows, JsonLike row) (json : r.FromJson) :
    (s.answerQuery name r).response = some (match r.run rows with
      | .ok page => .ok page.toValue
      | .error f => .detail 400 f.message) := by
  cases ran : r.run rows with
  | error f =>
    rw [(failedAnswered known ran).1, requestFaultAnswered (runFailsByRequest json like f ran)]
  | ok page =>
    have inside (item : Value) (member : item ∈ page.items) : JsonLike item :=
      like item (pageWithinRows ran item member)
    rw [(loadedAnswered known ran).1, rowsWritten s.framework rows
      (fun item member => (inside item member).short)
      (plainMembers fun item member => (inside item member).plain)]
    rfl

theorem addressesAnswered {u : UrlRequest} (json : u.request.FromJson)
    (skip : OData.SkipShort u.request) :
    (answerAddresses u).response = some (match OData.urls u.version u.url u.request with
      | .ok urls => .ok (urls.toValue .wire)
      | .error f => .detail 400 f.message) := by
  unfold answerAddresses
  cases written : OData.urls u.version u.url u.request with
  | ok urls => rfl
  | error f =>
    obtain ⟨own, blamed⟩ := OData.urlsFailByRequest u.version u.url json skip f written
    simp only [if_pos own]
    exact congrArg some (requestFaultAnswered blamed)

theorem jsonBodiesAnswered (s : Server) (fresh : String) (i : Incoming) {v : Value}
    (sent : s.framework.bodyOf i = .value v) (like : JsonLike v) :
    (∀ name rows r, Route.of i.method (pathOf i.target) = .endpoint (.query name) →
      s.sources.find? (trimmed name) = some (.rows rows) → (∀ row ∈ rows, JsonLike row) →
      Request.read .attributesExpected v = .valid r →
      (s.handle fresh i).response = match r.run rows with
        | .ok page => .ok (.dict [("items", .list page.items), ("total", .int page.total)])
        | .error f => .detail 400 f.message) ∧
    ∀ u, Route.of i.method (pathOf i.target) = .endpoint .addresses →
      UrlRequest.read .attributesExpected v = .valid u → OData.SkipShort u.request →
      (s.handle fresh i).response = match OData.urls u.version u.url u.request with
        | .ok urls => .ok (.dict [("dataUrl", .text urls.dataUrl), ("pageUrl", .text urls.pageUrl)])
        | .error f => .detail 400 f.message := by
  refine ⟨fun name rows r routed known rowsLike read => ?_, fun u routed read skip => ?_⟩
  · refine postedResponse routed rfl ?_ fresh
    rw [sent, Server.answer, withBodyValid read]
    exact rowsAnswered known rowsLike (Request.fromJson like read)
  · refine postedResponse routed rfl ?_ fresh
    rw [sent, Server.answer, withBodyValid read]
    exact addressesAnswered (UrlRequest.fromJson like read) skip

theorem reachedLike {v : Value} (like : JsonLike v) (path : List Validation.Step) :
    JsonLike (Validation.reached path v) := by
  fun_induction Validation.reached path v with
  | case1 name path es w found ih =>
    cases like with
    | dict members => exact ih (members _ (findMem found))
  | case3 n path items w found ih =>
    cases like with
    | list members => exact ih (members w (List.mem_of_getElem? found))
  | _ => exact like

def bodyIssues (issues : List Validation.Issue) : List Validation.Issue :=
  issues.map fun i => { i with path := .key "body" :: i.path }

theorem withBodyInvalid {α : Type} {v : Value} (like : JsonLike v)
    {read : Value → Validation.Checked α} {issues : List Validation.Issue}
    (invalid : read v = .invalid issues) (answer : α → Answer) :
    withBody (.value v) read answer = refused (bodyIssues issues) := by
  have whole : JsonLike (.dict [("body", v)]) := .dict (List.forall_mem_singleton.mpr like)
  have told : (bodyIssues issues).all fun i =>
      (Validation.reached i.path (.dict [("body", v)])).finite :=
    List.all_eq_true.mpr fun i _ => (reachedLike whole i.path).finite
  simp only [withBody, invalid, Validation.Checked.under]
  exact if_pos told

theorem jsonBodiesRefused (s : Server) (fresh : String) (i : Incoming) {v : Value}
    (sent : s.framework.bodyOf i = .value v) (like : JsonLike v) {issues : List Validation.Issue} :
    (∀ name, Route.of i.method (pathOf i.target) = .endpoint (.query name) →
      Request.read .attributesExpected v = .invalid issues →
      (s.handle fresh i).response = ⟨422, .issues (bodyIssues issues)⟩) ∧
    (Route.of i.method (pathOf i.target) = .endpoint .addresses →
      UrlRequest.read .attributesExpected v = .invalid issues →
      (s.handle fresh i).response = ⟨422, .issues (bodyIssues issues)⟩) := by
  refine ⟨fun name routed read => ?_, fun routed read => ?_⟩
  · refine postedResponse routed rfl ?_ fresh
    rw [sent, Server.answer, withBodyInvalid like read]
    rfl
  · refine postedResponse routed rfl ?_ fresh
    rw [sent, Server.answer, withBodyInvalid like read]
    rfl

def sentAsJson : List (String × String) := [("content-type", "application/json; charset=utf-8")]

theorem unorderedRowsAnswered :
    let s := Server.ofSources
      ⟨[("items", .rows [.dict [("a", .int 1)], .dict [("a", .text "x")]])]⟩
    let query : Incoming := ⟨"POST", "/api/grid/sources/items/query", sentAsJson,
      Json.octetsOf "\x7b\"sorting\":[\x7b\"field\":\"a\"\x7d]\x7d"⟩
    let addresses : Incoming :=
      ⟨"POST", "/api/grid/odata/url", sentAsJson, Json.octetsOf "\x7b\"url\":\"/\"\x7d"⟩
    (s.handle "fresh" query).response =
        .detail 400 "'<' not supported between instances of 'str' and 'int'" ∧
      (s.handle "fresh" addresses).response =
        .ok (.dict [("dataUrl", .text "/?"), ("pageUrl", .text "/?$count=true")]) := by
  intro s query addresses
  have byA : s.framework.bodyOf query =
      .value (.dict [("sorting", .list [.dict [("field", .text "a")]])]) := by cbv
  have root : s.framework.bodyOf addresses = .value (.dict [("url", .text "/")]) := by cbv
  have byALike : JsonLike (.dict [("sorting", .list [.dict [("field", .text "a")]])]) := by
    refine .dict (List.forall_mem_singleton.mpr (.list (List.forall_mem_singleton.mpr ?_)))
    exact .dict (List.forall_mem_singleton.mpr (.text "a"))
  have rootLike : JsonLike (.dict [("url", .text "/")]) :=
    .dict (List.forall_mem_singleton.mpr (.text "/"))
  have routed : Route.of query.method (pathOf query.target) = .endpoint (.query "items") := by cbv
  have routedToo : Route.of addresses.method (pathOf addresses.target) = .endpoint .addresses := by
    cbv
  have known : s.sources.find? (trimmed "items") =
    some (.rows [.dict [("a", .int 1)], .dict [("a", .text "x")]]) := by cbv
  have rowsLike : ∀ row ∈ [Value.dict [("a", .int 1)], .dict [("a", .text "x")]], JsonLike row := by
    rw [List.forall_mem_cons, List.forall_mem_singleton]
    have digit : (1 : Int).natAbs < Number.tenTo 1 := by decide
    have small : (1 : Int).natAbs < Number.tenTo 1999 :=
      Nat.lt_of_lt_of_le digit (tenToMono (by decide))
    exact ⟨.dict (List.forall_mem_singleton.mpr (.int small)),
      .dict (List.forall_mem_singleton.mpr (.text "x"))⟩
  let r : Request := { Request.everything with sorting := [⟨"a", .direction .ascending⟩] }
  have ran : r.run [.dict [("a", .int 1)], .dict [("a", .text "x")]] =
    .error (.unorderable .less "str" "int") := by cbv
  have answered := (jsonBodiesAnswered s "fresh" query byA byALike).1 "items" _ r routed known
    rowsLike rfl
  have written : OData.urls .v4 "/" .everything = .ok ⟨"/?", "/?$count=true"⟩ := by rfl
  have addressed := (jsonBodiesAnswered s "fresh" addresses root rootLike).2
    ⟨.v4, "/", .everything⟩ routedToo rfl fun _ _ _ sized => by cases sized
  rw [ran] at answered
  simp only [written] at addressed
  exact ⟨answered, addressed⟩

def tenText (n : Nat) : String := String.ofList ('1' :: List.replicate n '0')

theorem zerosRead (n : Nat) :
    (List.replicate n '0').mapM asciiDigit? = some (List.replicate n 0) := by
  induction n with
  | zero => rfl
  | succ n ih =>
    rw [List.replicate_succ, List.mapM_cons, ih]
    rfl

theorem zerosCount (n acc : Nat) :
    (List.replicate n 0).foldl (fun acc d => acc * 10 + d) acc = acc * Number.tenTo n := by
  induction n generalizing acc with
  | zero => simp [Number.tenTo]
  | succ n ih =>
    rw [List.replicate_succ, List.foldl_cons, ih, Number.tenToSucc]
    ring

theorem tenTextRead {n : Nat} (few : n < digitLimit) :
    Validation.int (.text (tenText n)) = .valid (Number.tenTo n) := by
  have digits : Validation.plainInteger? (tenText n).toList = some (false, 1 :: List.replicate n 0) := by
    simp [tenText, Validation.plainInteger?, List.mapM_cons, zerosRead, asciiDigit?]
  have counted : ofDigits (1 :: List.replicate n 0) = Number.tenTo n := by
    simp [ofDigits, zerosCount]
  show Validation.intOfText (tenText n) = _
  have few' : (1 :: List.replicate n 0).length ≤ digitLimit := by simpa using few
  simp only [Validation.intOfText, digits, if_pos few', counted, withSign]
  rfl

theorem tenToShort {n : Nat} (few : n < digitLimit) :
    tooManyDigits (Number.tenTo n : Nat) = false := by
  refine tooManyBelow (n + 1) few ?_
  have positive := Number.tenToPos n
  rw [Int.natAbs_natCast, Number.tenToSucc]
  omega

theorem tenToLong {m n : Nat} (long : digitLimit ≤ m + n) :
    tooManyDigits (Number.tenTo m * Number.tenTo n : Nat) = true := by
  rw [Number.tenTo, Number.tenTo, Nat.pow_eq, Nat.pow_eq, ← Nat.pow_add]
  exact decide_eq_true (tenToMono long)

def farPage : Value :=
  .dict [("url", .text "/items"), ("request", .dict
    [("page", .text (tenText 2199)), ("pageSize", .text (tenText 2200))])]

def farRequest : Request :=
  { Request.everything with
    page := some (Number.tenTo 2199)
    pageSize := some (Number.tenTo 2200) }

theorem farPageLike : JsonLike farPage := by
  have pages : JsonLike
      (.dict [("page", .text (tenText 2199)), ("pageSize", .text (tenText 2200))]) :=
    .dict (List.forall_mem_cons.mpr ⟨.text _, List.forall_mem_singleton.mpr (.text _)⟩)
  exact .dict (List.forall_mem_cons.mpr ⟨.text "/items", List.forall_mem_singleton.mpr pages⟩)

theorem farPageRead :
    UrlRequest.read .attributesExpected farPage = .valid ⟨.v4, "/items", farRequest⟩ := by
  have page : Request.Fields .attributesExpected
      [("page", .text (tenText 2199)), ("pageSize", .text (tenText 2200))] farRequest := by
    refine ⟨Validation.givenFound rfl ?_, Validation.givenFound rfl ?_, rfl, rfl, rfl, rfl⟩
    · exact Validation.optionalValid.mpr (.inr ⟨nofun, _,
        Validation.naturalValid.mpr ⟨tenTextRead (by decide), Nat.zero_le _⟩, rfl⟩)
    · exact Validation.optionalValid.mpr (.inr ⟨nofun, _,
        Validation.naturalValid.mpr ⟨tenTextRead (by decide), Number.tenToPos _⟩, rfl⟩)
  exact UrlRequest.readIff.mpr
    ⟨_, rfl, rfl, rfl, Validation.givenFound rfl (Request.readIff.mpr ⟨_, rfl, page⟩)⟩

theorem farPageUnwritten : OData.urls .v4 "/items" farRequest = .error .longInteger := by
  have size := shortTold (v := .int (Number.tenTo 2200)) (tenToShort (by decide))
  have skip : (Value.int (Number.tenTo 2199 * Number.tenTo 2200 : Nat)).text? =
      .error .longInteger := if_pos (tenToLong (by decide))
  have paged : OData.pagePairs .v4 farRequest = [("$top", .int (Number.tenTo 2200)),
    ("$skip", .int (Number.tenTo 2199 * Number.tenTo 2200 : Nat)), ("$count", .text "true")] := rfl
  have query : OData.queryPairs .v4 farRequest = .ok [] := rfl
  simp only [OData.urls, query, paged, okBind, OData.pairTexts, size, skip, errorBind]

theorem farPageBreaksDown :
    JsonLike farPage ∧ ∃ u, UrlRequest.read .attributesExpected farPage = .valid u ∧
      OData.urls u.version u.url u.request = .error .longInteger ∧
      ((Server.ofSources .empty).answer (.value farPage) .addresses).response = none := by
  refine ⟨farPageLike, _, farPageRead, farPageUnwritten, ?_⟩
  rw [Server.answer, withBodyValid farPageRead, answerAddresses]
  simp only [farPageUnwritten]
  rfl

end Service
end TableQuery
