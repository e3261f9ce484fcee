import Octoscript.Ui.Realize

namespace Octoscript.Ui

/-- What a path argument is looked up by: the state it names, or its first segment. -/
def staleTarget (path : Path) : String :=
  if path.root = "state" then Path.root path.tail else path.root

def SourceDecl.readsStale (source : SourceDecl) (invalidated : List String) : Bool :=
  source.args.any fun arg => match arg.2 with
    | .path path => staleTarget path ∈ invalidated
    | .text _ | .number _ | .list _ => false

def invalidateSource (invalidated : List String) (source : SourceDecl) : List String :=
  if source.readsStale invalidated ∧ source.name.text ∉ invalidated then
    invalidated ++ [source.name.text]
  else invalidated

/-- Rounds over the sources until one of them finds nothing. -/
def invalidateRounds (sources : List SourceDecl) : ℕ → List String → List String
  | 0, invalidated => invalidated
  | rounds + 1, invalidated =>
    let next := sources.foldl invalidateSource invalidated
    if next.length = invalidated.length then next else invalidateRounds sources rounds next

def invalidatedBy (card : Card) (changed : List Path) : List String :=
  invalidateRounds card.sources maxUiL0Declarations (changed.map Path.root)

/-- `stale_sources`. -/
def staleSources (card : Card) (changed : List Path) : List String :=
  (invalidatedBy card changed).filter (· ∈ card.sources.map fun source => source.name.text)

/-- The paths that resolving the arguments of a source reads. -/
def SourceDecl.reads (source : SourceDecl) : List Path :=
  source.valueArgs.flatMap fun arg => match arg.2 with
    | .path path => [path.stripState]
    | .list items => items.map Path.stripState
    | .text _ | .number _ => []

inductive Card.Stale (card : Card) (changed : List Path) : SourceDecl → Prop
  | direct {source : SourceDecl} {path name : Path} : source ∈ card.sources →
    path ∈ source.reads → name ∈ changed → name <+: path → card.Stale changed source
  | through {source other : SourceDecl} {path : Path} : source ∈ card.sources →
    path ∈ source.reads → card.Stale changed other → other.name <+: path → card.Stale changed source

/-- The names that the rounds come to: a path argument is followed by its first segment, or by the
one behind `state`, from a changed root or the whole name of a source. -/
inductive Card.Followed (card : Card) (changed : List Path) : String → Prop
  | root {name : Path} : name ∈ changed → card.Followed changed name.root
  | source {source : SourceDecl} {label : String} {path : Path} : source ∈ card.sources →
    (label, .path path) ∈ source.args → card.Followed changed (staleTarget path) →
    card.Followed changed source.name.text

variable (sources : List SourceDecl) (invalidated : List String)

theorem le_invalidateSource (source : SourceDecl) :
    invalidated <+: invalidateSource invalidated source := by
  unfold invalidateSource
  split
  · exact List.prefix_append _ _
  · exact List.prefix_rfl

theorem le_round : invalidated <+: sources.foldl invalidateSource invalidated := by
  induction sources generalizing invalidated with
  | nil => exact List.prefix_rfl
  | cons source sources ih => exact (le_invalidateSource invalidated source).trans (ih _)

/-- The names with every source that reads one of them. -/
def Closed : Prop :=
  ∀ source ∈ sources, source.readsStale invalidated = true → source.name.text ∈ invalidated

/-- A round finds nothing and the names are closed, or it finds a name that was missing. -/
theorem round_cases :
    sources.foldl invalidateSource invalidated = invalidated ∧ Closed sources invalidated ∨
      ∃ source ∈ sources, source.name.text ∉ invalidated ∧
        source.name.text ∈ sources.foldl invalidateSource invalidated := by
  induction sources with
  | nil => simp [Closed]
  | cons source sources ih =>
    rw [List.foldl_cons]
    by_cases hfound : source.readsStale invalidated = true ∧ source.name.text ∉ invalidated
    · refine .inr ⟨source, List.mem_cons_self, hfound.2, ?_⟩
      apply (le_round sources _).subset
      simp [invalidateSource, hfound]
    · have hstep : invalidateSource invalidated source = invalidated := if_neg hfound
      rw [hstep]
      obtain ⟨hsame, hclosed⟩ | ⟨other, hother, hnew⟩ := ih
      · refine .inl ⟨hsame, fun other hother hreads => ?_⟩
        obtain rfl | hother := List.mem_cons.mp hother
        · exact not_not.mp fun hname => hfound ⟨hreads, hname⟩
        · exact hclosed other hother hreads
      · exact .inr ⟨other, List.mem_cons_of_mem _ hother, hnew⟩

def missing : Finset String :=
  (sources.map fun source => source.name.text).toFinset \ invalidated.toFinset

variable {sources invalidated}

/-- With a round for every name that is missing, the rounds end closed. -/
theorem invalidateRounds_spec {rounds : ℕ} (hrounds : (missing sources invalidated).card ≤ rounds) :
    invalidated ⊆ invalidateRounds sources rounds invalidated ∧
      Closed sources (invalidateRounds sources rounds invalidated) := by
  induction rounds generalizing invalidated with
  | zero =>
    have hnone := Finset.card_eq_zero.mp (Nat.le_zero.mp hrounds)
    have hall := Finset.sdiff_eq_empty_iff_subset.mp hnone
    refine ⟨List.Subset.refl _, fun source hsource _ => ?_⟩
    exact List.mem_toFinset.mp (hall (List.mem_toFinset.mpr (List.mem_map_of_mem hsource)))
  | succ rounds ih =>
    have hle := le_round sources invalidated
    unfold invalidateRounds
    obtain ⟨hsame, hclosed⟩ | ⟨source, hsource, hmissing, hthere⟩ := round_cases sources invalidated
    · simpa [hsame] using hclosed
    · have hmore : (sources.foldl invalidateSource invalidated).length ≠ invalidated.length :=
        fun hsame => hmissing (hle.eq_of_length hsame.symm ▸ hthere)
      have hfewer : missing sources (sources.foldl invalidateSource invalidated) ⊂
          missing sources invalidated := by
        refine (Finset.ssubset_iff_of_subset ?_).mpr ⟨source.name.text, ?_, ?_⟩
        · refine Finset.sdiff_subset_sdiff (Finset.Subset.refl _) fun name hname => ?_
          exact List.mem_toFinset.mpr (hle.subset (List.mem_toFinset.mp hname))
        · simpa [missing, hmissing] using ⟨source, hsource, rfl⟩
        · simp [missing, hthere]
      obtain ⟨hsub, hclosed⟩ := ih (Nat.le_of_lt_succ ((Finset.card_lt_card hfewer).trans_le hrounds))
      rw [if_neg hmore]
      exact ⟨List.Subset.trans hle.subset hsub, hclosed⟩

theorem readsStale_iff {source : SourceDecl} : source.readsStale invalidated = true ↔
    ∃ label path, (label, .path path) ∈ source.args ∧ staleTarget path ∈ invalidated := by
  simp only [SourceDecl.readsStale, List.any_eq_true]
  constructor
  · rintro ⟨⟨label, arg⟩, harg, hread⟩
    cases arg with
    | path path => exact ⟨label, path, harg, by simpa using hread⟩
    | text | number | list => cases hread
  · rintro ⟨label, path, harg, hread⟩
    exact ⟨_, harg, by simpa using hread⟩

variable {card : Card} {changed : List Path}

theorem followed_invalidateSource {source : SourceDecl} (hsource : source ∈ card.sources)
    (h : ∀ name ∈ invalidated, card.Followed changed name) :
    ∀ name ∈ invalidateSource invalidated source, card.Followed changed name := by
  unfold invalidateSource
  split_ifs with hreads
  · obtain ⟨label, path, harg, hread⟩ := readsStale_iff.mp hreads.1
    rintro name hname
    rcases List.mem_append.mp hname with hname | hname
    · exact h name hname
    · rw [List.mem_singleton.mp hname]
      exact .source hsource harg (h _ hread)
  · exact h

theorem followed_invalidateRounds {rounds : ℕ}
    (h : ∀ name ∈ invalidated, card.Followed changed name) :
    ∀ name ∈ invalidateRounds card.sources rounds invalidated, card.Followed changed name := by
  induction rounds generalizing invalidated with
  | zero => exact h
  | succ rounds ih =>
    have hround : ∀ name ∈ card.sources.foldl invalidateSource invalidated,
        card.Followed changed name :=
      List.foldlRecOn (motive := fun found => ∀ name ∈ found, card.Followed changed name)
        card.sources invalidateSource h fun _ h _ hsource => followed_invalidateSource hsource h
    unfold invalidateRounds
    dsimp only
    split_ifs
    · exact hround
    · exact ih hround

/-- With as many rounds as there are sources, the names that are found are those that are
followed. -/
theorem mem_invalidatedBy_iff (hrounds : card.sources.length ≤ maxUiL0Declarations)
    {name : String} : name ∈ invalidatedBy card changed ↔ card.Followed changed name := by
  constructor
  · refine followed_invalidateRounds (fun name hname => ?_) name
    obtain ⟨path, hpath, rfl⟩ := List.mem_map.mp hname
    exact .root hpath
  · have hfew : (missing card.sources (changed.map Path.root)).card ≤ maxUiL0Declarations := by
      refine (Finset.card_le_card Finset.sdiff_subset).trans ((List.toFinset_card_le _).trans ?_)
      rwa [List.length_map]
    obtain ⟨hsub, hclosed⟩ := invalidateRounds_spec hfew
    intro h
    induction h with
    | root hname => exact hsub (List.mem_map_of_mem hname)
    | source hsource harg _ ih => exact hclosed _ hsource (readsStale_iff.mpr ⟨_, _, harg, ih⟩)

theorem Card.Stale.mem {source : SourceDecl} (h : card.Stale changed source) :
    source ∈ card.sources := by
  cases h with
  | direct hsource => exact hsource
  | through hsource => exact hsource

/-- Every source that a change reaches is found exactly if each of them is also reached over path
arguments alone, by roots of changed paths and whole names of sources. -/
theorem staleSources_complete_iff (card : Card) (changed : List Path)
    (hrounds : card.sources.length ≤ maxUiL0Declarations) :
    (∀ source, card.Stale changed source → source.name.text ∈ staleSources card changed) ↔
      ∀ source, card.Stale changed source → card.Followed changed source.name.text := by
  refine forall₂_congr fun source hstale => ?_
  rw [staleSources, List.mem_filter, mem_invalidatedBy_iff hrounds, and_iff_left]
  simpa using ⟨source, hstale.mem, rfl⟩

/-- The weather of the place of a city, and the prices of some symbols. -/
def weatherCard (place : Path) (symbols : List Path) : Card where
  sources := [⟨place, "sys.geocode", [("name", .path ["state", "city"])]⟩,
    ⟨["now"], "sys.weather", [("lat", .path (place ++ ["lat"])), ("lon", .path (place ++ ["lon"]))]⟩,
    ⟨["rows"], "sys.movers", [("symbols", .list symbols)]⟩]
  states := [⟨["city"], .text, some (.string "Bergen"), none, false⟩]
  events := []
  copies := []
  components := []
  views := [⟨"root", .call "Col" [] ([["now", "temp"], ["rows", "last"]].map fun path =>
    .call "TextValue" [⟨"value", .path path⟩] [])⟩]

theorem weatherCard_stale (place : Path) (symbols : List Path)
    (hplace : (place ++ ["lat"]).stripState = place ++ ["lat"]) :
    ∃ now, now.name = ["now"] ∧ (weatherCard place symbols).Stale [["city"]] now := by
  have hgeocode : (weatherCard place symbols).Stale [["city"]]
      ⟨place, "sys.geocode", [("name", .path ["state", "city"])]⟩ :=
    .direct List.mem_cons_self List.mem_cons_self List.mem_cons_self List.prefix_rfl
  refine ⟨_, rfl, .through (List.mem_cons_of_mem _ List.mem_cons_self) ?_ hgeocode
    (List.prefix_append place ["lat"])⟩
  simp [SourceDecl.reads, SourceDecl.valueArgs, hplace]

/-- A list that reads no source and no changed name hides nothing. -/
theorem staleSources_complete_weather :
    ∃ now : SourceDecl, now.name = ["now"] ∧
      now.name.text ∈ staleSources (weatherCard ["place"] [["here", "lat"]]) [["city"]] := by
  obtain ⟨now, hname, hstale⟩ := weatherCard_stale ["place"] [["here", "lat"]] rfl
  refine ⟨now, hname, (staleSources_complete_iff _ _ (by decide)).mpr (fun source h => ?_) now
    hstale⟩
  have hplace : (weatherCard ["place"] [["here", "lat"]]).Followed [["city"]] "place" :=
    @Card.Followed.source _ _ ⟨["place"], _, _⟩ _ _ List.mem_cons_self List.mem_cons_self
      (.root List.mem_cons_self)
  have hnow : (weatherCard ["place"] [["here", "lat"]]).Followed [["city"]] "now" :=
    @Card.Followed.source _ _ ⟨["now"], _, _⟩ _ _ (List.mem_cons_of_mem _ List.mem_cons_self)
      List.mem_cons_self hplace
  -- the prices read neither the city nor a source
  have hreads : ∀ source ∈ (weatherCard ["place"] [["here", "lat"]]).sources, ∀ path ∈ source.reads,
      source.name ∈ [["place"], ["now"]] ∨ path = ["here", "lat"] := by decide
  have hnames : source.name ∈ [["place"], ["now"]] := by
    induction h with
    | @direct source path name hsource hpath hchanged hstart =>
      refine (hreads source hsource path hpath).resolve_right ?_
      rintro rfl
      obtain rfl := List.mem_singleton.mp hchanged
      exact absurd hstart (by decide)
    | @through source other path hsource hpath _ hstart ih =>
      refine (hreads source hsource path hpath).resolve_right ?_
      rintro rfl
      rcases List.mem_pair.mp ih with heq | heq <;> rw [heq] at hstart <;>
        exact absurd hstart (by decide)
  rcases List.mem_pair.mp hnames with heq | heq <;> rw [heq]
  · exact hplace
  · exact hnow

/-- If the name of the place has two segments the weather is not found, and neither are the
prices if the city is in their list. -/
theorem staleSources_misses :
    ∃ (_ : F64Ops) (_ : Unicode) (card : Card) (now rows : SourceDecl), card.Accepted ∧
      card.Stale [["city"]] now ∧ now.name.text ∉ staleSources card [["city"]] ∧
      card.Stale [["city"]] rows ∧ rows.name.text ∉ staleSources card [["city"]] := by
  obtain ⟨now, hname, hstale⟩ := weatherCard_stale ["env", "place"] [["city"]] rfl
  refine ⟨F64Ops.counting, Unicode.ascii, weatherCard ["env", "place"] [["city"]], now,
    ⟨["rows"], "sys.movers", [("symbols", .list [["city"]])]⟩, by decide +kernel, hstale, ?_, ?_, ?_⟩
  · rw [hname]
    decide +kernel
  · exact .direct (by simp [weatherCard]) (by decide) List.mem_cons_self List.prefix_rfl
  · decide +kernel

end Octoscript.Ui
