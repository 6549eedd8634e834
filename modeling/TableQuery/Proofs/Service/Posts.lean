import TableQuery.Proofs.Value.LongIntegers
import TableQuery.Service.Handling

/-! How a posted request comes to the answer of its endpoint: nothing else answers it, and the
response is sent as it is. -/
namespace TableQuery.Service
open TableQuery.Text Validation

theorem routedMethod {method path : String} {e : Endpoint}
    (routed : Route.of method path = .endpoint e) : method ∈ e.methods := by
  unfold Route.of at routed
  split at routed
  · split at routed
    · next allowed =>
      cases routed
      exact allowed
    · cases routed
  · split at routed <;> cases routed

theorem questionOptions {i : Incoming} {question : String × String}
    (asked : i.question? = some question) : i.method = "OPTIONS" := by
  simp only [Incoming.question?, Option.bind_eq_bind, Option.bind_eq_some_iff,
    Option.ite_none_right_eq_some] at asked
  obtain ⟨-, -, -, -, options, -⟩ := asked
  exact options

theorem routedPost {method path : String} {e : Endpoint}
    (routed : Route.of method path = .endpoint e) (post : e.methods = ["POST"]) :
    method = "POST" := List.mem_singleton.mp (post ▸ routedMethod routed)

theorem postAnswered {i : Incoming} {e : Endpoint}
    (routed : Route.of i.method (pathOf i.target) = .endpoint e) (post : e.methods = ["POST"])
    (s : Server) : s.respond i = s.answer (s.framework.bodyOf i) e := by
  have posted := routedPost routed post
  have unquestioned : i.question? = none := by
    rw [Option.eq_none_iff_forall_ne_some]
    intro question asked
    exact absurd (posted ▸ questionOptions asked) (by decide)
  simp only [Server.respond, unquestioned, Server.along, routed]

theorem postResponse {s : Server} {i : Incoming} {response : Response}
    (handled : (s.respond i).response = some response) (posted : i.method = "POST") (fresh : String) :
    (s.handle fresh i).response = response := by
  unfold Server.handle
  simp only [handled]
  rw [posted]
  rfl

theorem postedResponse {s : Server} {i : Incoming} {e : Endpoint} {response : Response}
    (routed : Route.of i.method (pathOf i.target) = .endpoint e) (post : e.methods = ["POST"])
    (answered : (s.answer (s.framework.bodyOf i) e).response = some response) (fresh : String) :
    (s.handle fresh i).response = response := by
  rw [← postAnswered routed post s] at answered
  exact postResponse answered (routedPost routed post) fresh

theorem withBodyValid {α : Type} {v : Value} {a : α} {read : Value → Checked α}
    (valid : read v = .valid a) (answer : α → Answer) :
    withBody (.value v) read answer = answer a := by
  simp [withBody, valid, Checked.under]

theorem startFetched (kind : String) (resolution : Resolution) :
    ((Load.start kind).fetch resolution).2 = (Load.start kind).report resolution := rfl

theorem startReply (kind : String) (resolution : Resolution) :
    ((Load.start kind).report resolution).reply = .ok resolution.outcome := by
  unfold Load.report
  cases resolution.outcome <;> rfl

theorem failedAnswered {s : Server} {name : String} {source : Source (List Value)}
    (known : s.sources.find? (trimmed name) = some source) {r : Request} {f : Fault}
    (failed : (source.resolve id r).outcome = .error f) :
    (s.answerQuery name r).response = some (faultResponse f).1 ∧
      (s.answerQuery name r).trail = ⟨some name, some source.kind, none, some f.kind.name⟩ := by
  constructor <;>
    simp only [Server.answerQuery, known, startFetched, answerFetched, startReply, failed, Trail.none]

theorem loadedAnswered {s : Server} {name : String} {source : Source (List Value)}
    (known : s.sources.find? (trimmed name) = some source) {r : Request} {page : Page}
    (loaded : (source.resolve id r).outcome = .ok page) :
    (s.answerQuery name r).response = (s.framework.written? source page).map .ok ∧
      (s.answerQuery name r).trail = ⟨some name, some source.kind, some page.total, none⟩ := by
  constructor <;>
    simp only [Server.answerQuery, known, startFetched, answerFetched, startReply, loaded, Trail.none]

theorem rowsWritten (fw : Framework) (rows : List Value) {page : Page}
    (short : ∀ item ∈ page.items, item.hasLongInteger = false)
    (plain : Value.plainAll? page.items = some page.items) :
    fw.written? (.rows rows) page = some page.toValue := by
  have told : Value.anyLongInteger page.items = false := (Value.noLongInteger _).mpr short
  simp [Framework.written?, countUntold, told, Page.toValue, Value.plain?, Value.plainEntries?, plain]

end TableQuery.Service
