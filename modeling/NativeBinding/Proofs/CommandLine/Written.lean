import NativeBinding.CommandLine.Run
import NativeBinding.Proofs.CommandLine.FileTree

namespace NativeBinding.CommandLine

-- The definition that the options name can be read, and this is its module under the
-- overrides that they give.
def Options.Produces (options : Options) (tree : FileTree) (config : Config) (source : String) : Prop :=
  ∃ definition text model, options.definitionPath = some definition ∧ tree.read (Path.ofString definition) = .ok text ∧
    Model.read (String.ofList (unifyLineEnds text.toList)) = .ok model ∧
    Config.forComponent model.component (overridesOf options) = .ok config ∧ (model.generate config).result = .ok source

structure Run.Writes (done : Run) (words : List String) (elapsed : String) (tree : FileTree) : Prop where
  refused : ∀ code, done.ending = .status code → code ≠ 0 → done.tree = tree
  helped : readOptions words = .error .help → done.tree = tree
  nowhere : done.ending = .nowhere → done.tree = tree
  written : done.ending = .status 0 → readOptions words ≠ .error .help → ∃ options directory config source,
    readOptions words = .ok options ∧ options.outputDir = some directory ∧ options.Produces tree config source ∧
    done.console.output = ["Generated: " ++ (outputPath directory config).text,completedLine elapsed] ∧
    ∀ place, done.tree.node? place =
      if place = (outputPath directory config).location then some (.file source)
      else if place ∈ (Path.ofString directory).passed ∧ tree.node? place = none then some .directory
      else tree.node? place
  -- Directories may stay behind when the module cannot be written.
  escaped : ∀ problem, done.ending = .escaped problem → done.tree = tree ∨ ∃ options directory,
    readOptions words = .ok options ∧ options.outputDir = some directory ∧ tree.Grown (Path.ofString directory) done.tree

section
variable {options : Options} {tree : FileTree} {config : Config} {model : Model} {source : String}

theorem forComponent_overrides (options : Options) (component : String) :
    Config.forComponent component (overridesOf options) = .ok
      { Config.defaults component with
        moduleName := if options.moduleName.isEmpty then component else options.moduleName
        libraryName := if options.libraryName.isEmpty then "uniffi_" ++ component else options.libraryName } := by
  by_cases named : options.moduleName.isEmpty
  · by_cases linked : options.libraryName.isEmpty
    · simp [Config.forComponent,overridesOf,Config.apply,Config.reserved,named,linked]
      rfl
    · simp [Config.forComponent,overridesOf,Config.apply,Config.reserved,named,linked]
      rfl
  · by_cases linked : options.libraryName.isEmpty
    · simp [Config.forComponent,overridesOf,Config.apply,Config.reserved,named,linked]
      rfl
    · simp [Config.forComponent,overridesOf,Config.apply,Config.reserved,named,linked]
      rfl

theorem configFor_overrides (options : Options) (component : String) :
    Config.forComponent component (overridesOf options) = .ok (configFor options component) := by
  unfold configFor
  rw [forComponent_overrides]

theorem compile_parts {text : String} (done : (compile options text).result = .ok (config,model,source)) :
    Model.read (String.ofList (unifyLineEnds text.toList)) = .ok model ∧
    Config.forComponent model.component (overridesOf options) = .ok config ∧ (model.generate config).result = .ok source := by
  unfold compile at done
  unfold Model.read
  rw [String.toList_ofList]
  split at done
  · cases done
  · rename_i read
    dsimp only at done
    split at done
    · cases done
    · rename_i generated
      cases done
      exact ⟨read,configFor_overrides options model.component,generated⟩

theorem judge_accepted {path : Path} {text : String}
    (judged : judge options path text = (log,.accepted directory config model source)) :
    (compile options text).result = .ok (config,model,source) ∧ options.outputDir = some directory := by
  unfold judge at judged
  dsimp only at judged
  split at judged
  · cases judged
  · rename_i compiled
    split at judged
    · cases judged
    · rename_i chosen
      cases judged
      exact ⟨compiled,chosen⟩

theorem requestOf_help : requestOf words = .help ↔ readOptions words = .error .help := by
  unfold requestOf
  constructor
  · intro asked
    split at asked
    · assumption
    · cases asked
    · split at asked <;> cases asked
  · intro asked
    rw [asked]

theorem requestOf_generate (asked : requestOf words = .generate options path) :
    readOptions words = .ok options ∧ ∃ definition, options.definitionPath = some definition ∧ path = Path.ofString definition := by
  unfold requestOf at asked
  split at asked
  · cases asked
  · cases asked
  · rename_i given
    split at asked
    · cases asked
    · rename_i definition named
      cases asked
      exact ⟨given,definition,named,rfl⟩

def Emits (words : List String) (elapsed : String) (tree : FileTree) (done : Run) : Prop :=
  ∃ options directory log config model source, readOptions words = .ok options ∧ options.outputDir = some directory ∧
    options.Produces tree config source ∧ done = emit options directory elapsed tree log config model source

theorem run_cases (words : List String) (elapsed : String) (tree : FileTree) :
    ((run words elapsed tree).tree = tree ∧ ((run words elapsed tree).ending = .status 0 → readOptions words = .error .help)) ∨
    Emits words elapsed tree (run words elapsed tree) := by
  unfold run
  cases asked : requestOf words with
  | help => exact .inl ⟨rfl,fun _ => requestOf_help.mp asked⟩
  | usage => exact .inl ⟨rfl,nofun⟩
  | generate options path =>
    obtain ⟨given,definition,named,rfl⟩ := requestOf_generate asked
    dsimp only
    unfold execute
    split
    · split
      · exact .inl ⟨rfl,nofun⟩
      · exact .inl ⟨rfl,nofun⟩
    · rename_i text found
      split
      · exact .inl ⟨rfl,nofun⟩
      · exact .inl ⟨rfl,nofun⟩
      · rename_i log directory config model source judged
        obtain ⟨compiled,chosen⟩ := judge_accepted judged
        right
        exact ⟨options,directory,log,config,model,source,given,chosen,
          ⟨definition,text,model,named,found,compile_parts compiled⟩,rfl⟩

-- Writing ends well or escapes. Directories are all that is made before the module itself.
theorem emit_cases (options : Options) (directory elapsed : String) (tree : FileTree) (log : List String) (config : Config)
    (model : Model) (source : String) :
    ((∃ problem, (emit options directory elapsed tree log config model source).ending = .escaped problem) ∧
      tree.Grown (Path.ofString directory) (emit options directory elapsed tree log config model source).tree) ∨
    ((emit options directory elapsed tree log config model source).ending = .status 0 ∧
      (emit options directory elapsed tree log config model source).console.output =
        [generatedLine (outputPath directory config),completedLine elapsed] ∧
      ∀ place, (emit options directory elapsed tree log config model source).tree.node? place =
        if place = (outputPath directory config).location then some (.file source)
        else if place ∈ (Path.ofString directory).passed ∧ tree.node? place = none then some .directory
        else tree.node? place) := by
  obtain ⟨grown,opened⟩ := tree.ensureDirectory_grown (Path.ofString directory)
  unfold emit
  split
  · rename_i failed
    rw [failed] at grown
    exact .inl ⟨⟨_,rfl⟩,grown⟩
  · rename_i after made
    rw [made] at grown opened
    dsimp only
    split
    · exact .inl ⟨⟨_,rfl⟩,grown⟩
    · rename_i last written
      right
      refine ⟨rfl,rfl,?_⟩
      intro place
      rw [FileTree.write_parts written place,grown.exact (opened rfl) place]

end

-- A module is written only by a run that ends well: it is the one that the definition and the
-- options stand for, and what is new beside it are directories on the way to it.
theorem run_writes (words : List String) (elapsed : String) (tree : FileTree) :
    (run words elapsed tree).Writes words elapsed tree := by
  rcases run_cases words elapsed tree with ⟨same,asked⟩ | ⟨options,directory,log,config,model,source,given,chosen,produces,emits⟩
  · exact ⟨fun _ _ _ => same,fun _ => same,fun _ => same,fun done other => absurd (asked done) other,fun _ _ => .inl same⟩
  · rw [emits]
    have unasked : readOptions words ≠ .error .help := by simp [given]
    rcases emit_cases options directory elapsed tree log config model source with ⟨⟨problem,escaped⟩,grown⟩ | ⟨done,output,nodes⟩
    · refine ⟨?_,fun asked => absurd asked unasked,?_,?_,fun _ _ => .inr ⟨options,directory,given,chosen,grown⟩⟩
      · intro code status
        rw [escaped] at status
        cases status
      · intro status
        rw [escaped] at status
        cases status
      · intro status
        rw [escaped] at status
        cases status
    · refine ⟨?_,fun asked => absurd asked unasked,?_,?_,?_⟩
      · intro code status other
        rw [done] at status
        cases status
        exact absurd rfl other
      · intro status
        rw [done] at status
        cases status
      · intro _ _
        exact ⟨options,directory,config,source,given,chosen,produces,output,nodes⟩
      · intro problem escaped
        rw [done] at escaped
        cases escaped

example : (run ["-vo","a/b","n.idl"] "0.00" ⟨[(⟨.above 0,["n.idl"]⟩,.file "namespace n;")]⟩).tree.working.map Prod.fst =
    [["n.idl"],["a"],["a","b"],["a","b","n.py"]] := by decide +kernel

end NativeBinding.CommandLine
