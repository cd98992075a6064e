import ClassPurge.Proofs.SourceFiles

/-!
What a run knows after any requests, in any order. The classes in use are those of the files that
were told of, the classes there are those of the stylesheets that were seen. Both only grow, each by
its own requests; and a stylesheet is purged by the classes in use alone.
-/

namespace ClassPurge

/-- What a run can be asked. -/
inductive Request
  | analyze (s : Sources) (now : Reading)
  | collect (css : Text)
  | purge (css : Text)
  | report (files : List SourceFile) (now : Reading)

inductive Answer
  | files (files : List SourceFile)
  | noted
  | stylesheet (t : Text)
  | report (r : Except Reading.Fault Report)

/-- The classes found in the files that an answer tells of. -/
def Answer.found : Answer → List Text
  | files fs => fs.flatMap SourceFile.classes
  | _ => []

/-- The classes of the stylesheet that a request brings. Purging brings it only where it is on. -/
def Request.classes (c : Config) : Request → List Text
  | collect css => Css.classNames css
  | purge css => if c.enabled then Css.classNames css else []
  | _ => []

namespace Run

/-- The run after a request, and the answer. -/
def serve (c : Config) (run : Run) : Request → Run × Answer
  | .analyze s now =>
    let told := (run.analyze c s now).value
    (told.1, .files told.2)
  | .collect css => ((run.collect css).value, .noted)
  | .purge css =>
    let purged := (run.purge c css).value
    (purged.1, .stylesheet purged.2)
  | .report files now => (run, .report (run.report c files now))

/-- The run after requests one after the other, and the answers. -/
def serveAll (c : Config) (run : Run) : List Request → Run × List Answer
  | [] => (run, [])
  | q :: qs =>
    let next := run.serve c q
    let rest := serveAll c next.1 qs
    (rest.1, next.2 :: rest.2)

section

variable {c : Config} {run : Run}

/-! ### One request -/

/-- The classes in use grow by what the answer tells of. -/
lemma serve_used (c : Config) (run : Run) (q : Request) :
    (run.serve c q).1.used = run.used.insertAll (run.serve c q).2.found := by
  cases q with
  | analyze s now => rw [serve, analyze_value]; rfl
  | collect css => rfl
  | purge css =>
    rw [serve, purge]
    cases c.enabled <;> rfl
  | report files now => rfl

/-- The classes there are grow by those of the stylesheet in the request. -/
lemma serve_all (c : Config) (run : Run) (q : Request) :
    (run.serve c q).1.all = run.all.insertAll (q.classes c) := by
  cases q with
  | analyze s now => rw [serve, analyze_value]; rfl
  | collect css => rfl
  | purge css =>
    rw [serve, purge, Request.classes]
    cases c.enabled <;> rfl
  | report files now => rfl

/-! ### All requests -/

lemma serveAll_append (c : Config) (run : Run) (qs rs : List Request) :
    (run.serveAll c (qs ++ rs)).1 = ((run.serveAll c qs).1.serveAll c rs).1 := by
  induction qs generalizing run with
  | nil => rfl
  | cons q qs ih => exact ih _

lemma serveAll_used (c : Config) (run : Run) (qs : List Request) :
    (run.serveAll c qs).1.used =
      run.used.insertAll ((run.serveAll c qs).2.flatMap Answer.found) := by
  induction qs generalizing run with
  | nil => rfl
  | cons q qs ih =>
    rw [serveAll, ih, serve_used, List.flatMap_cons, TextSet.insertAll_append]

lemma serveAll_all (c : Config) (run : Run) (qs : List Request) :
    (run.serveAll c qs).1.all = run.all.insertAll (qs.flatMap (Request.classes c)) := by
  induction qs generalizing run with
  | nil => rfl
  | cons q qs ih =>
    rw [serveAll, ih, serve_all, List.flatMap_cons, TextSet.insertAll_append]

end

/-- **What a run knows is what it was told**, whatever it was asked and in whatever order: the
classes of the files in the answers and those of the stylesheets in the requests. -/
theorem serveAll_sets (c : Config) (qs : List Request) :
    let run := (start.serveAll c qs).1
    run.used = TextSet.ofList ((start.serveAll c qs).2.flatMap Answer.found) ∧
      run.all = TextSet.ofList (qs.flatMap (Request.classes c)) ∧
      (∀ more, (∀ w ∈ run.used, w ∈ (start.serveAll c (qs ++ more)).1.used) ∧
        ∀ w ∈ run.all, w ∈ (start.serveAll c (qs ++ more)).1.all) ∧
      (∀ css, (run.serve c (.purge css)).1.used = run.used ∧
        (run.serve c (.collect css)).1.used = run.used) ∧
      (∀ s now, (run.serve c (.analyze s now)).1.all = run.all) ∧
      (∀ files now, (run.serve c (.report files now)).1 = run) ∧
      (∀ css others, (start.serveAll c others).1.used = run.used →
        ((start.serveAll c others).1.serve c (.purge css)).2 = (run.serve c (.purge css)).2) ∧
      (c.enabled = false →
        (∀ s now, (run.serve c (.analyze s now)).1.used = run.used) ∧
          ∀ css, (run.serve c (.purge css)).1.all = run.all) := by
  intro run
  refine ⟨serveAll_used c start qs, serveAll_all c start qs, fun more => ⟨fun w hw => ?_,
    fun w hw => ?_⟩, fun css => ⟨serve_used c run _, serve_used c run _⟩,
    fun s now => serve_all c run _, fun files now => rfl, fun css others h => ?_, fun hoff => ?_⟩
  · rw [serveAll_append, serveAll_used]
    exact TextSet.mem_insertAll.mpr (.inr hw)
  · rw [serveAll_append, serveAll_all]
    exact TextSet.mem_insertAll.mpr (.inr hw)
  · -- Of the run, purging reads the classes in use and nothing else.
    rw [serve, serve, purge, purge, h]
  · refine ⟨fun s now => ?_, fun css => ?_⟩
    · rw [serve_used, serve, analyze_value, Sources.told, hoff]
      rfl
    · rw [serve_all, Request.classes, hoff]
      rfl

/-- Of two files one fails at first and the other later. The stylesheet is purged as in a run that
saw no other stylesheet and only the second file. -/
theorem serveAll_sets_two_analyses :
    let c : Config :=
      { Config.default with extractors := ⟨[(".txt".toList, .spaced "words".toList)]⟩ }
    let paths : List Text := ["p.txt".toList, "q.txt".toList]
    let sources (there : Text) : Sources :=
      ⟨⟨.ok paths, []⟩, fun p => if p = there then .ok [0x61] else .error "missing"⟩
    let css : Text := ".a{}.b{}".toList
    let q : Request := .analyze (sources "p.txt".toList) .zero
    let r : Request := .analyze (sources "q.txt".toList) .zero
    let run := (start.serveAll c [q, .purge css, .collect ".c{}".toList, r]).1
    run.used.toList = [['a']] ∧ run.all.toList = [['a'], ['b'], ['c']] ∧
      (start.serveAll c [r]).1.used = run.used ∧
      ((start.serveAll c [r]).1.serve c (.purge css)).2 = (run.serve c (.purge css)).2 := by
  intro c paths sources css q r run
  have hused : run.used.toList = [['a']] := by decide +kernel
  have hall : run.all.toList = [['a'], ['b'], ['c']] := by decide +kernel
  have hlater : (start.serveAll c [r]).1.used.toList = [['a']] := by decide +kernel
  have hsame : (start.serveAll c [r]).1.used = run.used :=
    TextSet.ext fun t => by rw [TextSet.mem_iff, TextSet.mem_iff, hused, hlater]
  obtain ⟨-, -, -, -, -, -, htext, -⟩ :=
    serveAll_sets c [q, .purge css, .collect ".c{}".toList, r]
  exact ⟨hused, hall, hsame, htext css [r] hsame⟩

end Run

end ClassPurge
