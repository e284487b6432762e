import SchemaQueries.Options
import SchemaQueries.Proofs.Steps

/-!
# What goes first

A run is told by flags, by a config and by defaults what to do. Of all that is given, only what goes
first counts: what it hides neither changes the options nor makes them fail.

## Main definitions

* `Options.GivesOutput`, `Options.GivesSource` — whether a command line and a config say where the
  output goes, and where the schema comes from.
* `Options.TakenFrom` — the first of an address, a file and a profile that is there.
* `Options.AgreeWhereRead` — two command lines with their configs that differ in what is hidden only.

## Main results

* `Options.resolve_eq_ok_iff` — the options of a command line and a config.
* `Options.resolve_goes_by_precedence` — when there are options, where the schema comes from, and what
  they do not depend on.
-/

set_option autoImplicit false
set_option relaxedAutoImplicit false

namespace SchemaQueries

open CommandLine (Arguments)

/-- How the schema of a profile is fetched, and how it is read then. -/
inductive Profile.IsFetchedBy : Profile → Source → SourceFormat → Prop where
  | endpoint (url : String) : IsFetchedBy (.endpoint url) (.endpoint url) .introspection
  | file (path : String) : IsFetchedBy (.file path) (.file path) .sdl
  | pipedResponse : IsFetchedBy .pipedResponse .pipe .introspection
  | pipedSdl : IsFetchedBy .pipedSdl .pipe .sdl

/-- Each profile is fetched in one way. -/
theorem Profile.isFetchedBy_iff {p : Profile} {source : Source} {format : SourceFormat} :
    p.IsFetchedBy source format ↔ p.source = (source, format) := by
  constructor
  · rintro (_ | _ | _ | _) <;> rfl
  · intro h
    cases p <;> obtain ⟨rfl, rfl⟩ := Prod.mk.inj h <;> constructor

namespace Options

variable {arguments arguments' : Arguments} {config config' : Option Config}

/-! ### The output -/

/-- A flag or the config says where the output goes. -/
def GivesOutput (arguments : Arguments) (config : Option Config) : Prop :=
  arguments.output.isSome ∨ ∃ c, config = some c ∧ c.outputDirectory.isSome

/-- Where the output goes: the flag goes first. -/
def output? (arguments : Arguments) (config : Option Config) : Option String :=
  arguments.output.or (config.bind Config.outputDirectory)

/-- Without a flag and without a config that says where it goes, there is no place for the output. -/
theorem output?_eq_none_iff : output? arguments config = none ↔ ¬ GivesOutput arguments config := by
  rw [output?, GivesOutput, Option.or_eq_none_iff]
  cases arguments.output <;> cases config <;> simp

/-- There is a place for the output exactly if the flag or the config gives one. -/
theorem exists_output?_iff :
    (∃ directory, output? arguments config = some directory) ↔ GivesOutput arguments config := by
  rw [← Option.ne_none_iff_exists', ne_eq, output?_eq_none_iff, Classical.not_not]

/-! ### The source -/

/-- The profile that is asked for, where the config has it. -/
def profile? (arguments : Arguments) (config : Option Config) : Option Profile :=
  config.bind fun c => c.profiles.bind fun profiles =>
    profiles.lookup (arguments.profile.getD defaultProfileName)

/-- A flag says where the schema comes from, or the config has the profile that is asked for. -/
def GivesSource (arguments : Arguments) (config : Option Config) : Prop :=
  arguments.url.isSome ∨ arguments.file.isSome ∨
    ∃ c profiles, config = some c ∧ c.profiles = some profiles ∧
      arguments.profile.getD defaultProfileName ∈ profiles.map Prod.fst

/-- What the schema is taken from: the address that a flag gives, else the file that a flag gives, else
the profile that is asked for. An address and a file of flags count as profiles of their own. -/
inductive TakenFrom (arguments : Arguments) (config : Option Config) : Profile → Prop where
  | url {url : String} (given : arguments.url = some url) : TakenFrom arguments config (.endpoint url)
  | file {path : String} (noUrl : arguments.url = none) (given : arguments.file = some path) :
    TakenFrom arguments config (.file path)
  | profile {p : Profile} (noUrl : arguments.url = none) (noFile : arguments.file = none)
    (found : profile? arguments config = some p) : TakenFrom arguments config p

/-- The config has a profile of a name exactly if the name is among those of its profiles. -/
theorem exists_lookup_eq_some_iff {profiles : List (String × Profile)} {name : String} :
    (∃ p, profiles.lookup name = some p) ↔ name ∈ profiles.map Prod.fst := by
  induction profiles with
  | nil => simp
  | cons entry profiles ih =>
    obtain ⟨key, p⟩ := entry
    rw [List.lookup_cons, List.map_cons, List.mem_cons]
    by_cases h : name = key
    · simp [h]
    · rw [beq_false_of_ne h, ih]
      exact (or_iff_right h).symm

/-- The profile that is asked for is there exactly if the config has profiles, one of that name
among them. -/
theorem exists_profile?_iff : (∃ p, profile? arguments config = some p) ↔
    ∃ c profiles, config = some c ∧ c.profiles = some profiles ∧
      arguments.profile.getD defaultProfileName ∈ profiles.map Prod.fst := by
  simp only [profile?, Option.bind_eq_some_iff, ← exists_lookup_eq_some_iff]
  exact ⟨fun ⟨p, c, hc, profiles, hp, h⟩ => ⟨c, profiles, hc, hp, p, h⟩,
    fun ⟨c, profiles, hc, hp, p, h⟩ => ⟨p, c, hc, profiles, hp, h⟩⟩

/-- There is something to take the schema from exactly if a flag or a profile gives it. -/
theorem exists_takenFrom_iff : (∃ p, TakenFrom arguments config p) ↔ GivesSource arguments config := by
  rw [GivesSource, ← exists_profile?_iff]
  constructor
  · rintro ⟨p, given | ⟨-, given⟩ | ⟨-, -, found⟩⟩
    · exact .inl (by rw [given]; rfl)
    · exact .inr (.inl (by rw [given]; rfl))
    · exact .inr (.inr ⟨p, found⟩)
  · intro h
    cases hurl : arguments.url with
    | some url => exact ⟨_, .url hurl⟩
    | none =>
      cases hfile : arguments.file with
      | some path => exact ⟨_, .file hurl hfile⟩
      | none =>
        rw [hurl, hfile] at h
        obtain ⟨p, found⟩ : ∃ p, profile? arguments config = some p := by simpa using h
        exact ⟨p, .profile hurl hfile found⟩

/-- The address that a flag gives is the source. -/
theorem resolveSource_of_url {url : String} (hurl : arguments.url = some url) :
    resolveSource arguments config = .ok (Profile.endpoint url).source := by
  simp only [resolveSource, hurl, Profile.source]

/-- Without an address, the file that a flag gives is the source. -/
theorem resolveSource_of_file {path : String} (hurl : arguments.url = none)
    (hfile : arguments.file = some path) :
    resolveSource arguments config = .ok (Profile.file path).source := by
  simp only [resolveSource, hurl, hfile, Profile.source]

/-- Without flags for it, the source is that of a profile of the config. -/
theorem resolveSource_of_noFlags (hurl : arguments.url = none) (hfile : arguments.file = none) :
    resolveSource arguments config = match config with
      | none => .error .noSource
      | some c => profileSource (arguments.profile.getD defaultProfileName) c := by
  cases config <;> simp only [resolveSource, hurl, hfile]

/-- The profile that is asked for is fetched as it says, and there is a problem if it is not there. -/
theorem resolveSource_of_noFlags_eq_ok_iff (hurl : arguments.url = none)
    (hfile : arguments.file = none) {pair : Source × SourceFormat} :
    resolveSource arguments config = .ok pair ↔
      ∃ p, profile? arguments config = some p ∧ p.source = pair := by
  rw [resolveSource_of_noFlags hurl hfile, profile?]
  cases config with
  | none => simp
  | some c =>
    simp only [profileSource, Option.bind_some]
    cases c.profiles with
    | none => simp
    | some profiles =>
      cases h : profiles.lookup (arguments.profile.getD defaultProfileName) <;> simp [h]

/-- The source is the one of what the schema is taken from.

**Proof sketch.** By cases on the flags, in the order of their precedence. A given flag leaves one way
only to take the source, since each of the other ways supposes that it is missing. -/
theorem resolveSource_eq_ok_iff {pair : Source × SourceFormat} :
    resolveSource arguments config = .ok pair ↔
      ∃ p, TakenFrom arguments config p ∧ p.source = pair := by
  cases hurl : arguments.url with
  | some url =>
    rw [resolveSource_of_url hurl, Except.ok.injEq]
    refine ⟨fun h => ⟨_, .url hurl, h⟩, ?_⟩
    rintro ⟨p, given | ⟨noUrl, -⟩ | ⟨noUrl, -, -⟩, rfl⟩
    · rw [Option.some.inj (hurl.symm.trans given)]
    all_goals exact absurd (hurl.symm.trans noUrl) nofun
  | none =>
    cases hfile : arguments.file with
    | some path =>
      rw [resolveSource_of_file hurl hfile, Except.ok.injEq]
      refine ⟨fun h => ⟨_, .file hurl hfile, h⟩, ?_⟩
      rintro ⟨p, given | ⟨-, given⟩ | ⟨-, noFile, -⟩, rfl⟩
      · exact absurd (hurl.symm.trans given) nofun
      · rw [Option.some.inj (hfile.symm.trans given)]
      · exact absurd (hfile.symm.trans noFile) nofun
    | none =>
      rw [resolveSource_of_noFlags_eq_ok_iff hurl hfile]
      refine ⟨fun ⟨p, found, h⟩ => ⟨p, .profile hurl hfile found, h⟩, ?_⟩
      rintro ⟨p, given | ⟨-, given⟩ | ⟨-, -, found⟩, h⟩
      · exact absurd (hurl.symm.trans given) nofun
      · exact absurd (hfile.symm.trans given) nofun
      · exact ⟨p, found, h⟩

/-- The problem with a source is never that there is no place for the output. -/
theorem resolveSource_ne_noOutputDirectory :
    resolveSource arguments config ≠ .error .noOutputDirectory := by
  unfold resolveSource
  split
  · nofun
  · nofun
  · unfold profileSource
    split
    · nofun
    · split <;> nofun
  · nofun

/-! ### The options -/

/-- Without a place for the output there is no other problem. -/
theorem resolve_of_output?_eq_none (h : output? arguments config = none) :
    resolve arguments config = .error .noOutputDirectory := by
  rw [output?] at h
  rw [resolve, h]

/-- With a place for the output, the options are found if the source is, and any problem is one of the
source. -/
theorem resolve_of_output?_eq_some {directory : String}
    (h : output? arguments config = some directory) :
    resolve arguments config = (resolveSource arguments config).map fun pair =>
      ⟨directory, (config.bind Config.lineBreak).getD defaultLineBreak,
        (config.bind Config.indent).getD defaultIndent, pair.1, pair.2⟩ := by
  rw [output?] at h
  rw [resolve, h]
  cases resolveSource arguments config <;> rfl

/-- The options of a command line and a config: the output goes where the flag says, or else the
config; the schema is taken from what goes first; the rest is said by the config, or else by the
defaults. -/
theorem resolve_eq_ok_iff {o : Options} : resolve arguments config = .ok o ↔
    output? arguments config = some o.outputDirectory ∧
    (∃ p, TakenFrom arguments config p ∧ p.IsFetchedBy o.source o.format) ∧
    o.lineBreak = (config.bind Config.lineBreak).getD defaultLineBreak ∧
    o.indent = (config.bind Config.indent).getD defaultIndent := by
  simp only [Profile.isFetchedBy_iff, ← resolveSource_eq_ok_iff]
  obtain ⟨directory, lineBreak, indent, source, format⟩ := o
  cases hout : output? arguments config with
  | none => simp [resolve_of_output?_eq_none hout]
  | some place =>
    rw [resolve_of_output?_eq_some hout, Steps.map_eq_ok_iff]
    simp only [mk.injEq, Option.some.injEq]
    constructor
    · rintro ⟨pair, hpair, rfl, rfl, rfl, rfl, rfl⟩
      exact ⟨rfl, hpair, rfl, rfl⟩
    · rintro ⟨rfl, hpair, rfl, rfl⟩
      exact ⟨(source, format), hpair, rfl, rfl, rfl, rfl, rfl⟩

/-- There are options exactly if there are a place for the output and a source. -/
theorem exists_resolve_eq_ok_iff : (∃ o, resolve arguments config = .ok o) ↔
    GivesOutput arguments config ∧ GivesSource arguments config := by
  rw [← exists_output?_iff, ← exists_takenFrom_iff]
  constructor
  · rintro ⟨o, h⟩
    obtain ⟨hout, ⟨p, hp, -⟩, -⟩ := resolve_eq_ok_iff.mp h
    exact ⟨⟨_, hout⟩, p, hp⟩
  · rintro ⟨⟨directory, hout⟩, p, hp⟩
    exact ⟨⟨directory, _, _, p.source.1, p.source.2⟩, resolve_eq_ok_iff.mpr
      ⟨hout, ⟨p, hp, Profile.isFetchedBy_iff.mpr rfl⟩, rfl, rfl⟩⟩

/-- There is no place for the output exactly if this is the problem that is reported. -/
theorem resolve_eq_noOutputDirectory_iff :
    resolve arguments config = .error .noOutputDirectory ↔ ¬ GivesOutput arguments config := by
  rw [← output?_eq_none_iff]
  refine ⟨fun h => ?_, resolve_of_output?_eq_none⟩
  cases hout : output? arguments config with
  | none => rfl
  | some directory =>
    rw [resolve_of_output?_eq_some hout] at h
    cases hsource : resolveSource arguments config with
    | ok pair => rw [hsource] at h; nomatch h
    | error e =>
      rw [hsource] at h
      cases h
      exact absurd hsource resolveSource_ne_noOutputDirectory

/-! ### What is hidden -/

/-- Two command lines with their configs that say the same wherever it counts. A place for the output
in the config counts where no flag gives one, the file of a flag where no address is given, and what is
said of profiles where neither an address nor a file is given. The place of the config itself does not
count. -/
structure AgreeWhereRead (arguments : Arguments) (config : Option Config) (arguments' : Arguments)
    (config' : Option Config) : Prop where
  indent : config.bind Config.indent = config'.bind Config.indent
  lineBreak : config.bind Config.lineBreak = config'.bind Config.lineBreak
  output : arguments.output = arguments'.output
  outputDirectory : arguments.output = none →
    config.bind Config.outputDirectory = config'.bind Config.outputDirectory
  url : arguments.url = arguments'.url
  file : arguments.url = none → arguments.file = arguments'.file
  profile : arguments.url = none → arguments.file = none → arguments.profile = arguments'.profile
  profiles : arguments.url = none → arguments.file = none →
    config.map Config.profiles = config'.map Config.profiles

namespace AgreeWhereRead

/-- The output goes to the same place. -/
theorem output?_eq (h : AgreeWhereRead arguments config arguments' config') :
    output? arguments config = output? arguments' config' := by
  rw [output?, output?, ← h.output]
  cases hout : arguments.output with
  | some directory => rfl
  | none => rw [Option.none_or, Option.none_or, h.outputDirectory hout]

/-- The schema comes from the same source, or there is the same problem with it.

**Proof sketch.** By cases on the flags again. A flag that is given decides the source, and both inputs
have it in common. Without flags the profiles are read, and these agree as well. -/
theorem resolveSource_eq (h : AgreeWhereRead arguments config arguments' config') :
    resolveSource arguments config = resolveSource arguments' config' := by
  cases hurl : arguments.url with
  | some url => rw [resolveSource_of_url hurl, resolveSource_of_url (h.url.symm.trans hurl)]
  | none =>
    have hurl' := h.url.symm.trans hurl
    have hfiles := h.file hurl
    cases hfile : arguments.file with
    | some path =>
      rw [resolveSource_of_file hurl hfile, resolveSource_of_file hurl' (hfiles.symm.trans hfile)]
    | none =>
      rw [resolveSource_of_noFlags hurl hfile,
        resolveSource_of_noFlags hurl' (hfiles.symm.trans hfile), ← h.profile hurl hfile]
      have hprofiles := h.profiles hurl hfile
      cases config with
      | none =>
        obtain rfl : config' = none := by simpa using hprofiles.symm
        rfl
      | some c =>
        obtain ⟨c', rfl, hc⟩ := Option.map_eq_some_iff.mp hprofiles.symm
        simp only [profileSource, hc]

/-- What is hidden makes no difference to the options and to the problems. -/
theorem resolve_eq (h : AgreeWhereRead arguments config arguments' config') :
    resolve arguments config = resolve arguments' config' := by
  cases hout : output? arguments config with
  | none =>
    rw [resolve_of_output?_eq_none hout, resolve_of_output?_eq_none (h.output?_eq.symm.trans hout)]
  | some directory =>
    rw [resolve_of_output?_eq_some hout,
      resolve_of_output?_eq_some (h.output?_eq.symm.trans hout), h.resolveSource_eq, h.indent,
      h.lineBreak]

end AgreeWhereRead

/-- **What goes first decides.** Take any command line, with a config or without.

* There are options exactly if a place for the output is given, by the flag or by the config, and a
  source: by one of its two flags, or by a config with the profile that is asked for.
* The source is the address of the flag, else the file of the flag, else the profile, each with the
  form that belongs to it.
* A command line and a config that differ from these in what is hidden only have the same outcome.
* Where a flag gives the source, whatever is wrong with profiles is no problem.
* That there is no place for the output is reported whatever is wrong with the source.

**Proof sketch.** With a place for the output the outcome is that of the source, with what the config
says of the layout put to it (`resolve_of_output?_eq_some`); without one it is this problem
(`resolve_of_output?_eq_none`). The source is found by the cases of what the schema is taken from
(`resolveSource_eq_ok_iff`), and what these cases do not look at makes no difference to it
(`AgreeWhereRead.resolveSource_eq`). -/
theorem resolve_goes_by_precedence (arguments : Arguments) (config : Option Config) :
    ((∃ o, resolve arguments config = .ok o) ↔
      GivesOutput arguments config ∧ GivesSource arguments config) ∧
    (∀ o, resolve arguments config = .ok o →
      ∃ p, TakenFrom arguments config p ∧ p.IsFetchedBy o.source o.format) ∧
    (∀ arguments' config', AgreeWhereRead arguments config arguments' config' →
      resolve arguments config = resolve arguments' config') ∧
    (arguments.url.isSome ∨ arguments.file.isSome → ∀ problem,
      resolve arguments config = .error problem → problem = .noOutputDirectory) ∧
    (¬ GivesOutput arguments config → resolve arguments config = .error .noOutputDirectory) := by
  refine ⟨exists_resolve_eq_ok_iff, fun o h => (resolve_eq_ok_iff.mp h).2.1,
    fun _ _ h => h.resolve_eq, fun hflag problem h => ?_, resolve_eq_noOutputDirectory_iff.mpr⟩
  by_cases hout : GivesOutput arguments config
  · -- A flag gives the source, so there are options.
    have hsource : GivesSource arguments config := by
      rcases hflag with hurl | hfile
      · exact .inl hurl
      · exact .inr (.inl hfile)
    obtain ⟨o, ho⟩ := exists_resolve_eq_ok_iff.mpr ⟨hout, hsource⟩
    nomatch h.symm.trans ho
  · rw [resolve_eq_noOutputDirectory_iff.mpr hout] at h
    exact (Except.error.inj h).symm

/-- The config of a text with profiles and a place for the output. -/
def profiledConfig : Config :=
  ⟨some [("piped", .pipedSdl), ("default", .endpoint "https://example.com/app")],
    some "generated", some "\r\n", some 4⟩

/-- The config of the same layout with nothing else. -/
def bareConfig : Config :=
  ⟨none, none, some "\r\n", some 4⟩

/-- Flags for a file and an output hide the profiles of a config and its own place for the output. -/
theorem resolve_goes_by_precedence_flags :
    Config.read ("\x7b\"outputDirectory\":\"generated\",\"indent\":4,\"lineBreak\":\"\\r\\n\"," ++
      "\"profiles\":\x7b\"default\":\x7b\"method\":\"Endpoint\"," ++
      "\"url\":\"https://example.com/app\"\x7d,\"piped\":\x7b\"method\":\"PipeSdl\"\x7d\x7d\x7d").toList =
      .ok profiledConfig ∧
    ∃ arguments arguments',
      CommandLine.parse ["--file", "other.graphql", "--output", "out"] = .ok arguments ∧
      CommandLine.parse ["--profile=missing", "-fother.graphql", "-o", "out"] = .ok arguments' ∧
      AgreeWhereRead arguments (some profiledConfig) arguments' (some bareConfig) ∧
      resolve arguments (some profiledConfig) = resolve arguments' (some bareConfig) := by
  have hagree : AgreeWhereRead ⟨none, none, none, some "other.graphql", some "out"⟩
      (some profiledConfig) ⟨none, some "missing", none, some "other.graphql", some "out"⟩
      (some bareConfig) :=
    ⟨rfl, rfl, rfl, nofun, rfl, fun _ => rfl, nofun, nofun⟩
  refine ⟨by decide +kernel, _, _, by decide +kernel, by decide +kernel, hagree, ?_⟩
  exact (resolve_goes_by_precedence _ _).2.2.1 _ _ hagree

end Options

end SchemaQueries
