import ValidatorGen.Command.Run
import ValidatorGen.Proofs.Sharing

/-!
# Which source counts

Of several sources the first that is there settles what is loaded, be it a document or a failure.
A source is missing only if there is nothing at its own path: whatever goes wrong further on, in a
file of a directory or in what a file holds, is a failure of another kind. So a source that is there
but cannot be loaded never gives way to a later one. This is so as well when workers share the files
of directories and several of them are bad.

## Main definitions

* `Source.Missing` — there is nothing at the path of a source
* `Failure.Tells` — a failure is not mistaken for a source that is missing
* `Files.View.MayLoadFirst` — what several sources may come to, however workers get on

## Main results

* `seen_load_eq_notFound_iff` — loading fails for want of a file only if the source is missing
* `seen_loadFirst_missing`, `seen_loadFirst_present` — a source that is missing is passed over, and
  any other one settles what is loaded
* `mayLoadFirst_iff_of_first` — the same in whatever order workers get to the files
* `look_loadFirst` — on a tree in memory the program comes to the same
* `loadFirst_settled` — what is loaded from several sources, and from one alone
-/

namespace ValidatorGen

open Files Schema

variable {v : View} {path : Path}

/-! ### One source -/

/-- There is nothing at the path of the source. -/
def Source.Missing (v : View) : Source → Prop
  | .bundle path => v.read path = .error .notFound
  | .directory path => v.list path = .error .notFound

instance : DecidablePred (Source.Missing v)
  | .bundle path => inferInstanceAs (Decidable (v.read path = .error .notFound))
  | .directory path => inferInstanceAs (Decidable (v.list path = .error .notFound))

/-- What a source comes to. -/
abbrev Files.View.load (v : View) (source : Source) : Logged Failure Document :=
  (source.load : LoggedT Seeing _ _).seen v

/-- What several sources come to. -/
abbrev Files.View.loadFirst (v : View) (sources : List Source) :
    Logged Failure (Document × Source) :=
  (ValidatorGen.loadFirst sources : LoggedT Seeing _ _).seen v

/-- What the document of an input comes to. -/
abbrev Files.View.loadDocument (v : View) (input : Input) : Logged Obstacle Document :=
  (input.loadDocument : LoggedT Seeing _ _).seen v

variable {source : Source} {others sources chain chain' : List Source}

theorem seen_load_of_missing (h : source.Missing v) :
    v.load source = .fail (.file .notFound) := by
  cases source with
  | bundle path =>
    have missing : v.read path = .error .notFound := h
    rw [View.load, Source.load, seen_loadBundle, missing]
    rfl
  | directory path =>
    have missing : v.list path = .error .notFound := h
    rw [View.load, Source.load, seen_loadDirectory, missing]
    rfl

/-- The failure is not mistaken for a source that is missing, or for having none at all. -/
structure Failure.Tells (e : Failure) : Prop where
  /-- It is not that a file is not found. -/
  ne_notFound : e ≠ .file .notFound
  /-- It is not that there are no sources. -/
  ne_noSources : e ≠ .noSources

theorem Failure.Inside.tells {e : Failure} (h : e.Inside) : e.Tells := by
  rcases h with ⟨cause, rfl⟩ | ⟨cause, rfl⟩ | ⟨cause, rfl⟩ <;> exact ⟨by simp, by simp⟩

theorem Failure.notFound_or_tells (cause : Files.Error) :
    cause = .notFound ∨ (Failure.file cause).Tells := by
  by_cases missing : cause = .notFound
  · exact .inl missing
  · exact .inr ⟨by simp [missing], by simp⟩

theorem missing_or_tells_of_seen_loadBundle {e : Failure}
    (h : ((loadBundle path : LoggedT Seeing _ _).seen v).outcome = .error e) :
    v.read path = .error .notFound ∨ e.Tells := by
  rw [seen_loadBundle, Logged.outcome_bind, bind_eq_error_iff] at h
  rcases h with unread | ⟨value, -, malformed⟩
  · rcases valueOf_eq_error unread with ⟨cause, unopened, rfl⟩ | inside
    · rcases Failure.notFound_or_tells cause with rfl | tells
      · exact .inl unopened
      · exact .inr tells
    · exact .inr inside.tells
  · rw [loadedBundle] at malformed
    split at malformed
    · cases malformed
    · cases malformed
      exact .inr ⟨by simp, by simp⟩

theorem missing_or_tells_of_mayLoad {e : Failure} (h : v.MayLoad path (.error e)) :
    v.list path = .error .notFound ∨ e.Tells := by
  cases listed : v.list path with
  | error cause =>
    obtain ⟨events, reports⟩ := h
    cases (mayReport_iff_of_error listed).mp reports
    exact (Failure.notFound_or_tells cause).imp_left (congrArg Except.error)
  | ok names =>
    apply Or.inr
    rcases (mayLoad_iff listed).mp h with ⟨types, -, same⟩ | ⟨file, mem, e', failed, same⟩
    · cases same
    · cases same
      rcases typeOf_eq_error failed with ⟨cause, unopened, rfl⟩ | inside
      · -- Only files that are there have been picked from the list.
        have there := v.read_ne_notFound file (List.mem_filter.mp mem).2
        apply (Failure.notFound_or_tells cause).resolve_left
        rintro rfl
        exact there unopened
      · exact inside.tells

/-- What loading a source may come to when workers share the files of a directory. -/
def Files.View.MayLoadSource (v : View) : Source → Logged Failure Document → Prop
  | .bundle path => fun result => result = (loadBundle path : LoggedT Seeing _ _).seen v
  | .directory path => v.MayReport path

/-- What a source comes to is one of the things that may happen. -/
theorem exists_mayLoadSource (v : View) (source : Source) :
    ∃ events, v.MayLoadSource source ⟨events, (v.load source).outcome⟩ := by
  cases source with
  | bundle path => exact ⟨_, rfl⟩
  | directory path => exact mayLoad_loadDirectory v path

theorem mayLoadSource_iff_of_missing (h : source.Missing v) {result : Logged Failure Document} :
    v.MayLoadSource source result ↔ result = .fail (.file .notFound) := by
  cases source with
  | bundle path =>
    rw [← seen_load_of_missing h]
    exact Iff.rfl
  | directory path => exact mayReport_iff_of_error h

/-- A source that cannot be loaded is missing, or fails in a way that is not mistaken for that. -/
theorem missing_or_tells_of_mayLoadSource {events : List Event} {e : Failure}
    (h : v.MayLoadSource source ⟨events, .error e⟩) : source.Missing v ∨ e.Tells := by
  cases source with
  | bundle path => exact missing_or_tells_of_seen_loadBundle (congrArg Logged.outcome h).symm
  | directory path => exact missing_or_tells_of_mayLoad ⟨events, h⟩

theorem missing_or_tells_of_seen_load {e : Failure}
    (h : (v.load source).outcome = .error e) : source.Missing v ∨ e.Tells := by
  obtain ⟨events, loads⟩ := exists_mayLoadSource v source
  rw [h] at loads
  exact missing_or_tells_of_mayLoadSource loads

/-- For want of a file, loading fails only if it is the source that is missing. -/
theorem seen_load_eq_notFound_iff :
    (v.load source).outcome = .error (.file .notFound) ↔ source.Missing v := by
  constructor
  · intro failed
    exact (missing_or_tells_of_seen_load failed).resolve_right fun tells => tells.ne_notFound rfl
  · intro missing
    rw [seen_load_of_missing missing]
    rfl

/-- A tree in memory is a file system that stays as it is. -/
theorem Source.look_load (source : Source) (t : Tree) :
    (source.load : LoggedT Memory _ _).look t = t.view.load source := by
  cases source with
  | bundle path =>
    rw [View.load, load, load, look_loadBundle, seen_loadBundle]
    rfl
  | directory path =>
    rw [View.load, load, load, look_loadDirectory, seen_loadDirectory]
    rfl

/-! ### Several sources -/

/-- What is reported of sources that are missing. -/
def missingEvents (sources : List Source) : List Event :=
  sources.map fun source => .missingSource source .notFound

theorem seen_loadFirst_missing (h : source.Missing v) (others : List Source) :
    v.loadFirst (source :: others) =
      ⟨.missingSource source .notFound :: (v.loadFirst others).events,
        (v.loadFirst others).outcome⟩ := by
  have load : (source.load : LoggedT Seeing _ _).seen v = _ := seen_load_of_missing h
  rw [View.loadFirst, loadFirst, LoggedT.seen_bind, LoggedT.seen_attempt, load, Logged.ok_bind]
  rfl

theorem seen_loadFirst_present (h : ¬source.Missing v) (others : List Source) :
    v.loadFirst (source :: others) =
      ⟨(v.load source).events, (v.load source).outcome.map fun d => (d, source)⟩ := by
  rw [View.loadFirst, loadFirst, LoggedT.seen_bind, LoggedT.seen_attempt, Logged.ok_bind]
  cases outcome : (v.load source).outcome with
  | ok d =>
    change (⟨_ ++ [], .ok (d, source)⟩ : Logged Failure (Document × Source)) = _
    rw [List.append_nil]
    rfl
  | error e =>
    have tells := (missing_or_tells_of_seen_load outcome).resolve_left h
    let events := (v.load source).events
    have fails : (⟨events ++ [], .error e⟩ : Logged Failure (Document × Source)) =
        ⟨events, .error e⟩ := by
      rw [List.append_nil]
    -- Only a file that is not found is passed over.
    cases e with
    | file cause =>
      cases cause with
      | notFound => exact absurd rfl tells.ne_notFound
      | _ => exact fails
    | _ => exact fails

theorem seen_loadFirst_append_missing (h : ∀ source ∈ sources, source.Missing v)
    (others : List Source) :
    v.loadFirst (sources ++ others) =
      ⟨missingEvents sources ++ (v.loadFirst others).events, (v.loadFirst others).outcome⟩ := by
  induction sources with
  | nil => rfl
  | cons source sources ih =>
    rw [List.forall_mem_cons] at h
    rw [List.cons_append, seen_loadFirst_missing h.1, ih h.2]
    rfl

/-- Unless all sources are missing, there is a first one that is not. -/
theorem exists_first_present (h : ¬∀ source ∈ sources, source.Missing v) :
    ∃ missing source others, sources = missing ++ source :: others ∧
      (∀ source ∈ missing, source.Missing v) ∧ ¬source.Missing v := by
  induction sources with
  | nil => exact absurd (fun _ mem => absurd mem List.not_mem_nil) h
  | cons source sources ih =>
    by_cases first : source.Missing v
    · have rest : ¬∀ source ∈ sources, source.Missing v := fun all =>
        h (List.forall_mem_cons.mpr ⟨first, all⟩)
      obtain ⟨missing, present, others, rfl, all, there⟩ := ih rest
      exact ⟨source :: missing, present, others, rfl, List.forall_mem_cons.mpr ⟨first, all⟩, there⟩
    · exact ⟨[], source, sources, rfl, fun _ mem => absurd mem List.not_mem_nil, first⟩

/-- What is loaded from several sources, of which the first one that is there is known. -/
theorem seen_loadFirst_of_first (all : ∀ source ∈ sources, source.Missing v)
    (there : ¬source.Missing v) (others : List Source) :
    v.loadFirst (sources ++ source :: others) =
      ⟨missingEvents sources ++ (v.load source).events,
        (v.load source).outcome.map fun d => (d, source)⟩ := by
  rw [seen_loadFirst_append_missing all, seen_loadFirst_present there]

theorem outcome_loadFirst_eq_noSources_iff :
    (v.loadFirst sources).outcome = .error .noSources ↔ ∀ source ∈ sources, source.Missing v := by
  constructor
  · intro none
    by_contra some
    obtain ⟨missing, source, others, rfl, all, there⟩ := exists_first_present some
    rw [seen_loadFirst_of_first all there] at none
    cases outcome : (v.load source).outcome with
    | ok d =>
      rw [outcome] at none
      cases none
    | error e =>
      rw [outcome] at none
      cases none
      exact ((missing_or_tells_of_seen_load outcome).resolve_left there).ne_noSources rfl
  · intro all
    have loaded := seen_loadFirst_append_missing all []
    rw [List.append_nil] at loaded
    rw [loaded]
    rfl

/-- Sources that are not all missing leave nothing to those after them. -/
theorem seen_loadFirst_append (h : ¬∀ source ∈ chain, source.Missing v) (chain' : List Source) :
    v.loadFirst (chain ++ chain') = v.loadFirst chain := by
  obtain ⟨missing, source, others, rfl, all, there⟩ := exists_first_present h
  rw [List.append_assoc, List.cons_append, seen_loadFirst_of_first all there,
    seen_loadFirst_of_first all there]

/-- A command finds the document that its sources come to, also if there is only one. -/
theorem Input.seen_loadDocument_eq_ok_iff {input : Input} {d : Document} :
    (v.loadDocument input).outcome = .ok d ↔
      ∃ source, (v.loadFirst input.sources).outcome = .ok (d, source) := by
  rw [View.loadDocument, loadDocument]
  split
  · rename_i none
    rw [none]
    constructor
    · intro found
      cases found
    · rintro ⟨source, found⟩
      cases found
  · rename_i source one
    rw [one, LoggedT.seen_mapError, Logged.outcome_mapError, mapError_eq_ok_iff]
    change (v.load source).outcome = .ok d ↔ _
    by_cases missing : source.Missing v
    · rw [seen_loadFirst_missing missing, seen_load_of_missing missing]
      constructor
      · intro found
        cases found
      · rintro ⟨source, found⟩
        cases found
    · rw [seen_loadFirst_present missing]
      cases (v.load source).outcome with
      | ok d' => simp [Except.map]
      | error e => simp [Except.map]
  · rw [LoggedT.seen_bind, LoggedT.seen_mapError, Logged.outcome_bind, Logged.outcome_mapError,
      bind_eq_ok_iff]
    constructor
    · rintro ⟨⟨d', source⟩, found, same⟩
      cases same
      exact ⟨source, mapError_eq_ok_iff.mp found⟩
    · rintro ⟨source, found⟩
      exact ⟨(d, source), mapError_eq_ok_iff.mpr found, rfl⟩

/-- On a tree in memory several sources come to what they come to on any file system. -/
theorem look_loadFirst (sources : List Source) (t : Tree) :
    (loadFirst sources : LoggedT Memory _ _).look t = t.view.loadFirst sources := by
  induction sources with
  | nil => rfl
  | cons source others ih =>
    rw [View.loadFirst, loadFirst, loadFirst, LoggedT.look_bind source.reads_load.attempt,
      LoggedT.seen_bind, LoggedT.look_attempt source.reads_load, LoggedT.seen_attempt,
      source.look_load]
    congr 1
    funext outcome
    -- What follows is the same unless the others are tried.
    split
    · rfl
    · let event : Logged Failure Unit := .report (.missingSource source .notFound)
      have reported := LoggedT.reads_ofLogged event
      rw [LoggedT.report, LoggedT.report, LoggedT.look_bind reported, LoggedT.seen_bind]
      congr 1
      funext reported
      exact ih
    · rfl

/-! ### Several sources, when files are read by workers -/

/-- What several sources may come to when workers share the files of directories. -/
inductive Files.View.MayLoadFirst (v : View) :
    List Source → Logged Failure (Document × Source) → Prop
  /-- There are no sources. -/
  | none : MayLoadFirst v [] (.fail .noSources)
  /-- The first one is loaded. -/
  | found {source : Source} {others : List Source} {events : List Event} {d : Document}
    (h : v.MayLoadSource source ⟨events, .ok d⟩) :
    MayLoadFirst v (source :: others) ⟨events, .ok (d, source)⟩
  /-- The first one is not found, and the others are tried. -/
  | missing {source : Source} {others : List Source} {events : List Event}
    {rest : Logged Failure (Document × Source)}
    (h : v.MayLoadSource source ⟨events, .error (.file .notFound)⟩)
    (h' : MayLoadFirst v others rest) :
    MayLoadFirst v (source :: others)
      ⟨events ++ .missingSource source .notFound :: rest.events, rest.outcome⟩
  /-- The first one fails in another way. -/
  | failed {source : Source} {others : List Source} {events : List Event} {e : Failure}
    (h : v.MayLoadSource source ⟨events, .error e⟩) (present : e ≠ .file .notFound) :
    MayLoadFirst v (source :: others) ⟨events, .error e⟩

/-- What a command may find in its sources. One that is alone must be there. -/
def Files.View.MayFind (v : View) : List Source → Logged Obstacle Document → Prop
  | [] => fun result => result = .fail .noSource
  | [source] => fun result =>
    ∃ loaded, v.MayLoadSource source loaded ∧ result = loaded.mapError .document
  | sources => fun result => ∃ found, v.MayLoadFirst sources found ∧
      result = ⟨found.events, (found.outcome.map Prod.fst).mapError .document⟩

/-- What the document of an input may come to when workers share the files of directories. -/
def Files.View.MayLoadDocument (v : View) (input : Input) : Logged Obstacle Document → Prop :=
  v.MayFind input.sources

variable {result : Logged Failure (Document × Source)}

/-- What several sources come to is one of the things that may happen. -/
theorem exists_mayLoadFirst (v : View) (sources : List Source) :
    ∃ events, v.MayLoadFirst sources ⟨events, (v.loadFirst sources).outcome⟩ := by
  induction sources with
  | nil => exact ⟨[], .none⟩
  | cons source others ih =>
    obtain ⟨events, loads⟩ := exists_mayLoadSource v source
    by_cases missing : source.Missing v
    · obtain ⟨later, rest⟩ := ih
      rw [seen_load_of_missing missing] at loads
      rw [seen_loadFirst_missing missing]
      exact ⟨events ++ .missingSource source .notFound :: later, .missing loads rest⟩
    · rw [seen_loadFirst_present missing]
      cases outcome : (v.load source).outcome with
      | ok d =>
        rw [outcome] at loads
        exact ⟨events, .found loads⟩
      | error e =>
        rw [outcome] at loads
        exact ⟨events, .failed loads
          ((missing_or_tells_of_seen_load outcome).resolve_left missing).ne_notFound⟩

theorem mayLoadFirst_nil_iff : v.MayLoadFirst [] result ↔ result = .fail .noSources := by
  constructor
  · rintro ⟨⟩
    rfl
  · rintro rfl
    exact .none

theorem mayLoadFirst_missing_iff (h : source.Missing v) (others : List Source) :
    v.MayLoadFirst (source :: others) result ↔ ∃ rest, v.MayLoadFirst others rest ∧
      result = ⟨.missingSource source .notFound :: rest.events, rest.outcome⟩ := by
  constructor
  · intro loads
    cases loads with
    | found loads => cases (mayLoadSource_iff_of_missing h).mp loads
    | missing loads rest =>
      cases (mayLoadSource_iff_of_missing h).mp loads
      exact ⟨_, rest, rfl⟩
    | failed loads present =>
      cases (mayLoadSource_iff_of_missing h).mp loads
      exact absurd rfl present
  · rintro ⟨rest, loads, rfl⟩
    exact .missing ((mayLoadSource_iff_of_missing h).mpr rfl) loads

theorem mayLoadFirst_present_iff (h : ¬source.Missing v) (others : List Source) :
    v.MayLoadFirst (source :: others) result ↔ ∃ loaded, v.MayLoadSource source loaded ∧
      result = ⟨loaded.events, loaded.outcome.map fun d => (d, source)⟩ := by
  have tells {events : List Event} {e : Failure}
      (loads : v.MayLoadSource source ⟨events, .error e⟩) : e ≠ .file .notFound :=
    ((missing_or_tells_of_mayLoadSource loads).resolve_left h).ne_notFound
  constructor
  · intro loads
    cases loads with
    | found loads | failed loads => exact ⟨_, loads, rfl⟩
    | missing loads => exact absurd rfl (tells loads)
  · rintro ⟨⟨events, e | d⟩, loads, rfl⟩
    · exact .failed loads (tells loads)
    · exact .found loads

theorem mayLoadFirst_append_iff (h : ∀ source ∈ sources, source.Missing v) (others : List Source) :
    v.MayLoadFirst (sources ++ others) result ↔ ∃ rest, v.MayLoadFirst others rest ∧
      result = ⟨missingEvents sources ++ rest.events, rest.outcome⟩ := by
  induction sources generalizing result with
  | nil => simp [missingEvents]
  | cons source sources ih =>
    rw [List.forall_mem_cons] at h
    rw [List.cons_append, mayLoadFirst_missing_iff h.1]
    constructor
    · rintro ⟨rest, loads, rfl⟩
      obtain ⟨last, ends, rfl⟩ := (ih h.2).mp loads
      exact ⟨last, ends, rfl⟩
    · rintro ⟨last, loads, rfl⟩
      exact ⟨_, (ih h.2).mpr ⟨last, loads, rfl⟩, rfl⟩

/-- What may be loaded from several sources, of which the first one that is there is known. -/
theorem mayLoadFirst_iff_of_first (all : ∀ source ∈ sources, source.Missing v)
    (there : ¬source.Missing v) (others : List Source) :
    v.MayLoadFirst (sources ++ source :: others) result ↔
      ∃ loaded, v.MayLoadSource source loaded ∧ result =
        ⟨missingEvents sources ++ loaded.events, loaded.outcome.map fun d => (d, source)⟩ := by
  rw [mayLoadFirst_append_iff all]
  simp only [mayLoadFirst_present_iff there]
  constructor
  · rintro ⟨rest, ⟨loaded, loads, rfl⟩, rfl⟩
    exact ⟨loaded, loads, rfl⟩
  · rintro ⟨loaded, loads, rfl⟩
    exact ⟨_, ⟨loaded, loads, rfl⟩, rfl⟩

/-- However the workers get on, sources come to nothing exactly if all of them are missing. -/
theorem outcome_eq_noSources_iff_of_mayLoadFirst (h : v.MayLoadFirst sources result) :
    result.outcome = .error .noSources ↔ ∀ source ∈ sources, source.Missing v := by
  constructor
  · intro none
    by_contra some
    obtain ⟨missing, source, others, rfl, all, there⟩ := exists_first_present some
    obtain ⟨⟨events, e | d⟩, loads, rfl⟩ := (mayLoadFirst_iff_of_first all there others).mp h
    · cases none
      exact ((missing_or_tells_of_mayLoadSource loads).resolve_left there).ne_noSources rfl
    · cases none
  · intro all
    rw [← List.append_nil sources, mayLoadFirst_append_iff all] at h
    obtain ⟨rest, ⟨⟩, rfl⟩ := h
    rfl

/-- However the workers get on, sources that are not all missing leave nothing to those after
them. -/
theorem mayLoadFirst_append_iff_of_present (h : ¬∀ source ∈ chain, source.Missing v)
    (chain' : List Source) :
    v.MayLoadFirst (chain ++ chain') result ↔ v.MayLoadFirst chain result := by
  obtain ⟨missing, source, others, rfl, all, there⟩ := exists_first_present h
  rw [List.append_assoc, List.cons_append, mayLoadFirst_iff_of_first all there,
    mayLoadFirst_iff_of_first all there]

/-- What a command finds is one of the things that may happen. -/
theorem exists_mayLoadDocument (v : View) (input : Input) :
    ∃ events, v.MayLoadDocument input ⟨events, (v.loadDocument input).outcome⟩ := by
  rw [View.MayLoadDocument, View.loadDocument, Input.loadDocument]
  rcases input.sources with _ | ⟨source, _ | ⟨source', others⟩⟩
  · exact ⟨[], rfl⟩
  · obtain ⟨events, loads⟩ := exists_mayLoadSource v source
    exact ⟨events, _, loads, rfl⟩
  · obtain ⟨events, loads⟩ := exists_mayLoadFirst v (source :: source' :: others)
    refine ⟨events, _, loads, ?_⟩
    rw [LoggedT.seen_bind, LoggedT.seen_mapError, Logged.outcome_bind, Logged.outcome_mapError]
    cases (v.loadFirst (source :: source' :: others)).outcome <;> rfl

/-- However the workers get on, a command finds a document that its sources may come to. -/
theorem exists_mayLoadDocument_ok_iff {input : Input} {d : Document} :
    (∃ events, v.MayLoadDocument input ⟨events, .ok d⟩) ↔
      ∃ events source, v.MayLoadFirst input.sources ⟨events, .ok (d, source)⟩ := by
  rw [View.MayLoadDocument]
  rcases input.sources with _ | ⟨source, _ | ⟨source', others⟩⟩
  · constructor
    · rintro ⟨events, ⟨⟩⟩
    · rintro ⟨events, source, loads⟩
      cases loads
  · constructor
    · rintro ⟨events, ⟨told, e | d'⟩, loads, ⟨⟩⟩
      exact ⟨told, source, .found loads⟩
    · rintro ⟨events, source', loads⟩
      generalize same : (⟨events, .ok (d, source')⟩ : Logged Failure (Document × Source)) = result
        at loads
      cases loads with
      | found loads =>
        cases same
        exact ⟨events, _, loads, rfl⟩
      | missing _ rest =>
        obtain rfl := mayLoadFirst_nil_iff.mp rest
        cases same
      | failed => cases same
  · constructor
    · rintro ⟨events, ⟨told, e | ⟨d', found⟩⟩, loads, ⟨⟩⟩
      exact ⟨told, found, loads⟩
    · rintro ⟨events, found, loads⟩
      exact ⟨events, _, loads, rfl⟩

/-- On a file system that stays as it is, several sources come to nothing exactly if all of them are
missing. Otherwise they come to what the first one comes to that is not missing, after a warning for
each one before it and whatever the ones after it are. So of two lists of sources, one after the
other, the second counts only if the first comes to nothing. A command finds the document that its
sources come to, and none if they come to none. All this is so in whatever order workers get to the
files of directories, and what the sources come to if the files are read one by one is one of the
things that may happen. -/
theorem loadFirst_settled (v : View) :
    (∀ sources, (v.loadFirst sources).outcome = .error .noSources ↔
      ∀ source ∈ sources, source.Missing v) ∧
    (∀ missing source others, (∀ s ∈ missing, Source.Missing v s) → ¬source.Missing v →
      v.loadFirst (missing ++ source :: others) =
        ⟨missingEvents missing ++ (v.load source).events,
          (v.load source).outcome.map fun d => (d, source)⟩) ∧
    (∀ chain chain' : List Source,
      ((v.loadFirst chain).outcome = .error .noSources →
        (v.loadFirst (chain ++ chain')).outcome = (v.loadFirst chain').outcome) ∧
      ((v.loadFirst chain).outcome ≠ .error .noSources →
        v.loadFirst (chain ++ chain') = v.loadFirst chain)) ∧
    (∀ (input : Input) (d : Document),
      (v.loadDocument input).outcome = .ok d ↔
        ∃ source, (v.loadFirst input.sources).outcome = .ok (d, source)) ∧
    (∀ sources result, v.MayLoadFirst sources result →
      (result.outcome = .error .noSources ↔ ∀ source ∈ sources, source.Missing v)) ∧
    (∀ missing source others result,
      (∀ s ∈ missing, Source.Missing v s) → ¬source.Missing v →
        (v.MayLoadFirst (missing ++ source :: others) result ↔
          ∃ loaded, v.MayLoadSource source loaded ∧
            result = ⟨missingEvents missing ++ loaded.events,
              loaded.outcome.map fun d => (d, source)⟩)) ∧
    (∀ (chain chain' : List Source) (result : Logged Failure (Document × Source)),
      ((∀ source ∈ chain, source.Missing v) →
        (v.MayLoadFirst (chain ++ chain') result ↔ ∃ rest, v.MayLoadFirst chain' rest ∧
          result = ⟨missingEvents chain ++ rest.events, rest.outcome⟩)) ∧
      ((¬∀ source ∈ chain, source.Missing v) →
        (v.MayLoadFirst (chain ++ chain') result ↔ v.MayLoadFirst chain result))) ∧
    (∀ (input : Input) (d : Document), (∃ events, v.MayLoadDocument input ⟨events, .ok d⟩) ↔
      ∃ events source, v.MayLoadFirst input.sources ⟨events, .ok (d, source)⟩) ∧
    ∀ sources, ∃ events, v.MayLoadFirst sources ⟨events, (v.loadFirst sources).outcome⟩ := by
  refine ⟨fun sources => outcome_loadFirst_eq_noSources_iff, ?_, fun chain chain' => ⟨?_, ?_⟩,
    fun input d => Input.seen_loadDocument_eq_ok_iff,
    fun sources result => outcome_eq_noSources_iff_of_mayLoadFirst,
    fun missing source others result all there => mayLoadFirst_iff_of_first all there others,
    fun chain chain' result => ⟨fun all => mayLoadFirst_append_iff all chain',
      fun present => mayLoadFirst_append_iff_of_present present chain'⟩,
    fun input d => exists_mayLoadDocument_ok_iff, exists_mayLoadFirst v⟩
  · intro missing source others all there
    exact seen_loadFirst_of_first all there others
  · intro none
    rw [seen_loadFirst_append_missing (outcome_loadFirst_eq_noSources_iff.mp none)]
  · intro some
    apply seen_loadFirst_append
    intro all
    exact some (outcome_loadFirst_eq_noSources_iff.mpr all)

/-- A directory with two bad files, a file that is not JSON, and an empty document. -/
def cupboard : Tree :=
  ⟨[([Text.encode "d"], .directory),
    ([Text.encode "d", Text.encode "p.json"], .file (Text.encode "[")),
    ([Text.encode "d", Text.encode "q.json"], .file (Text.encode "null")),
    ([Text.encode "b.json"], .file (Text.encode "[")),
    ([Text.encode "c.json"], .file (Text.encode "\x7b\x7d"))], by decide⟩

/-- A directory that is not there. -/
def noDirectory : Source := .directory (.ofString "out")

/-- The directory that is there. -/
def badDirectory : Source := .directory (.ofString "d")

/-- The file that is not JSON. -/
def badBundle : Source := .bundle (.ofString "b.json")

/-- The file after it. -/
def goodBundle : Source := .bundle (.ofString "c.json")

theorem mem_typeFiles_badDirectory {name : Name} (mem : name ∈ ["p.json", "q.json"].map Text.encode)
    (counts : extension? name = some typeExtension)
    (file : cupboard.view.isFile ((Path.ofString "d").entry name)) :
    (Path.ofString "d").entry name ∈
      cupboard.view.typeFiles (.ofString "d") (["p.json", "q.json"].map Text.encode) := by
  rw [View.typeFiles, List.mem_filter, List.mem_map]
  refine ⟨⟨name, List.mem_mergeSort.mpr ?_, rfl⟩, file⟩
  rw [typeNames, List.mem_filter]
  exact ⟨mem, decide_eq_true counts⟩

theorem loadFirst_settled_cupboard :
    (cupboard.view.loadFirst [noDirectory]).outcome = .error .noSources ∧
    (∃ cause, cupboard.view.loadFirst [noDirectory, badBundle, goodBundle] =
      ⟨[.missingSource noDirectory .notFound], .error (.json cause)⟩) ∧
    (cupboard.view.loadFirst [noDirectory, goodBundle]).outcome = .ok (.ofTypes [], goodBundle) ∧
    (∃ d, (cupboard.view.loadDocument { bundle := some (.ofString "c.json") }).outcome = .ok d) ∧
    (∃ events cause, cupboard.view.MayLoadFirst [noDirectory, badDirectory, goodBundle]
      ⟨events, .error (.json cause)⟩) ∧
    ∃ events, cupboard.view.MayLoadFirst [noDirectory, badDirectory, goodBundle]
      ⟨events, .error (.compile (.malformed (some "q") (.notObjectType "null")))⟩ := by
  have missing : noDirectory.Missing cupboard.view := by decide +kernel
  have bad : ¬badBundle.Missing cupboard.view := by decide +kernel
  have good : ¬goodBundle.Missing cupboard.view := by decide +kernel
  have there : ¬badDirectory.Missing cupboard.view := by decide +kernel
  have failed : ∃ cause, cupboard.view.load badBundle = ⟨[], .error (.json cause)⟩ := ⟨_, rfl⟩
  have loaded : (cupboard.view.load goodBundle).outcome = .ok (.ofTypes []) := rfl
  obtain ⟨none, first, append, one, -, shared, -⟩ := loadFirst_settled cupboard.view
  have nothing := (none [noDirectory]).mpr (by simpa using missing)
  have alone := first [] goodBundle [] (by simp) good
  -- Either of the two bad files may be the one that is told of.
  have listed : cupboard.view.list (.ofString "d") =
      .ok (["p.json", "q.json"].map Text.encode) := by decide +kernel
  have either (name : Name) (e : Failure) (mem : name ∈ ["p.json", "q.json"].map Text.encode)
      (counts : extension? name = some typeExtension)
      (file : cupboard.view.isFile ((Path.ofString "d").entry name))
      (fails : typeOf ((Path.ofString "d").entry name)
        (cupboard.view.read ((Path.ofString "d").entry name)) = .error e) :
      ∃ events, cupboard.view.MayLoadFirst [noDirectory, badDirectory, goodBundle]
        ⟨events, .error e⟩ := by
    obtain ⟨told, loads⟩ := (mayLoad_iff listed).mpr
      (.inr ⟨_, mem_typeFiles_badDirectory mem counts file, e, fails, rfl⟩)
    exact ⟨_, (shared [noDirectory] badDirectory [goodBundle] _ (by simpa using missing) there).mpr
      ⟨⟨told, .error e⟩, loads, rfl⟩⟩
  refine ⟨nothing, ?_, ?_, ?_, ?_, ?_⟩
  · obtain ⟨cause, failed⟩ := failed
    have settled := first [noDirectory] badBundle [goodBundle] (by simpa using missing) bad
    refine ⟨cause, settled.trans ?_⟩
    rw [failed]
    rfl
  · refine ((append [noDirectory] [goodBundle]).1 nothing).trans ?_
    rw [show [goodBundle] = [] ++ goodBundle :: [] from rfl, alone, loaded]
    rfl
  · refine ⟨.ofTypes [], (one _ _).mpr ⟨goodBundle, ?_⟩⟩
    change (cupboard.view.loadFirst ([] ++ goodBundle :: [])).outcome = _
    rw [alone, loaded]
    rfl
  · obtain ⟨events, loads⟩ := either (Text.encode "p.json") _ (by decide) (by decide)
      (by decide +kernel) rfl
    exact ⟨events, _, loads⟩
  · exact either (Text.encode "q.json") _ (by decide) (by decide) (by decide +kernel) rfl

end ValidatorGen
