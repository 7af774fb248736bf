import ResearchPlatform.Foundation.BreadthFirst
import ResearchPlatform.Foundation.Outcome
import ResearchPlatform.Foundation.Whitespace

/-!
# The sandbox boundary

`SandboxLimits` and `screen_calculation`, over the syntax tree that Python's parser makes of
a submission.
-/

namespace ResearchPlatform

open Foundation

/-- What running a calculation raises.  `raised` is any exception that no code of the sandbox
names, and `starved` is none of Python's: a loop of the model ran out of its turns. -/
inductive SandboxFault where
  | calculationNotAllowed (message : String)
  | calculationFailed (message : String)
  | sandboxUnavailable (message : String)
  | httpError (message : String)
  | timeoutExpired
  | osError (message : String)
  | raised (message : String)
  | starved
  deriving DecidableEq

/-! ## The resource ceiling -/

/-- `SandboxLimits`: the fields that `__post_init__` lets through. -/
structure SandboxLimits where
  cpuSeconds : Int := 10
  memoryMib : Int := 512
  wallClockSeconds : Int := 30
  maxOutputBytes : Int := 262144
  networkEnabled : Bool := false
  withoutNetwork : networkEnabled = false := by decide
  positive : ∀ value ∈ [cpuSeconds, memoryMib, wallClockSeconds, maxOutputBytes], 1 ≤ value :=
    by decide
  cpuWithin : cpuSeconds ≤ wallClockSeconds := by decide

namespace SandboxLimits

/-- The check of one field that must be positive. -/
def checkPositive (name : String) (value : Int) : Except String (PLift (1 ≤ value)) :=
  if positive : 1 ≤ value then .ok ⟨positive⟩ else .error (name ++ " must be positive")

/-- `SandboxLimits(...)`, or the message of the `ValueError` that `__post_init__` raises. -/
def create (cpuSeconds memoryMib wallClockSeconds maxOutputBytes : Int)
    (networkEnabled : Bool) : Except String SandboxLimits :=
  if withoutNetwork : networkEnabled = false then do
    let cpu ← checkPositive "cpu_seconds" cpuSeconds
    let memory ← checkPositive "memory_mib" memoryMib
    let wallClock ← checkPositive "wall_clock_seconds" wallClockSeconds
    let output ← checkPositive "max_output_bytes" maxOutputBytes
    if cpuWithin : cpuSeconds ≤ wallClockSeconds then
      return {
        cpuSeconds, memoryMib, wallClockSeconds, maxOutputBytes, networkEnabled,
        withoutNetwork, cpuWithin,
        positive := by simp [cpu.down, memory.down, wallClock.down, output.down] }
    else
      throw "cpu_seconds cannot exceed wall_clock_seconds"
  else
    .error "the analysis sandbox must never be given network access"

/-- `SandboxLimits()`. -/
def standard : SandboxLimits := {}

end SandboxLimits

/-! ## The screen -/

/-- `MAX_CODE_LENGTH`. -/
def maxCodeLength : Nat := 20000

/-- `FORBIDDEN_MODULES`. -/
def forbiddenModules : List String :=
  ["asyncio", "ctypes", "http", "importlib", "multiprocessing", "os", "pathlib", "pickle",
    "requests", "shutil", "socket", "subprocess", "sys", "urllib", "webbrowser"]

/-- `FORBIDDEN_NAMES`. -/
def forbiddenNames : List String :=
  ["__import__", "breakpoint", "compile", "eval", "exec", "globals", "input", "locals",
    "open", "vars"]

/-- `FORBIDDEN_ATTRIBUTES`. -/
def forbiddenAttributes : List String :=
  ["__builtins__", "__class__", "__globals__", "__subclasses__"]

/-- A node of a syntax tree, with what the screen reads of it. -/
inductive SyntaxNode where
  | imports (names : List String)
  | importsFrom (module : Option String)
  | name (id : String)
  | attributeOf (attr : String)
  | other
  deriving DecidableEq

/-- What `ast.parse` raises. -/
inductive ParseFault where
  | syntaxError (msg : String)
  | raised (message : String)

/-- `ast.parse`, with the children of a node in the order of `ast.iter_child_nodes`. -/
structure PythonParser where
  parse : String → Except ParseFault (LabelTree SyntaxNode)

/-- `_module_root`. -/
def moduleRoot (name : String) : String := String.ofList (name.toList.takeWhile (· ≠ '.'))

/-- One turn of `_reject_modules`. -/
def rejectModule (name : String) : Except SandboxFault Unit :=
  if moduleRoot name ∉ forbiddenModules then
    .ok ()
  else
    .error (.calculationNotAllowed ("a calculation must not import " ++ moduleRoot name))

/-- `_reject_modules`. -/
def rejectModules (names : List String) : Except SandboxFault Unit := names.forM rejectModule

/-- One turn of the loop of `screen_calculation`. -/
def screenNode : SyntaxNode → Except SandboxFault Unit
  | .imports names => rejectModules names
  | .importsFrom module => rejectModules [module.getD ""]
  | .name id =>
      if id ∉ forbiddenNames then
        .ok ()
      else
        .error (.calculationNotAllowed ("a calculation must not use " ++ id))
  | .attributeOf attr =>
      if attr ∉ forbiddenAttributes then
        .ok ()
      else
        .error (.calculationNotAllowed ("a calculation must not reach " ++ attr))
  | .other => .ok ()

/-- `except SyntaxError`. -/
def ParseFault.translate : ParseFault → SandboxFault
  | syntaxError msg => .calculationNotAllowed ("a calculation must be valid Python: " ++ msg)
  | raised message => .raised message

/-- `screen_calculation`. -/
def PythonParser.screenCalculation (parser : PythonParser) (code : String) :
    Except SandboxFault String :=
  let candidate := strip code
  if candidate = "" then
    .error (.calculationNotAllowed "a calculation must not be empty")
  else if maxCodeLength < candidate.length then
    .error (.calculationNotAllowed
      ("a calculation must not exceed " ++ toString maxCodeLength ++ " characters"))
  else do
    let tree ← (parser.parse candidate).mapError ParseFault.translate
    tree.walk.forM screenNode
    return candidate

/-! ## What the screen lets through -/

/-- The node reaches for nothing that the sandbox withholds. -/
def SyntaxNode.Permitted : SyntaxNode → Prop
  | imports names => ∀ name ∈ names, moduleRoot name ∉ forbiddenModules
  | importsFrom module => moduleRoot (module.getD "") ∉ forbiddenModules
  | name id => id ∉ forbiddenNames
  | attributeOf attr => attr ∉ forbiddenAttributes
  | other => True

/-- A submission that may be run: what is left of it without the white space around it is
a program none of whose nodes, at any depth, reaches for what is withheld. -/
structure PythonParser.Permits (parser : PythonParser) (code : String) : Prop where
  some : strip code ≠ ""
  short : (strip code).length ≤ maxCodeLength
  tree : ∃ tree, parser.parse (strip code) = .ok tree ∧ ∀ node ∈ tree.labels, node.Permitted

theorem rejectModules_eq_ok {names : List String} :
    rejectModules names = .ok () ↔ ∀ name ∈ names, moduleRoot name ∉ forbiddenModules := by
  simp only [rejectModules, forM_eq_ok_iff, rejectModule, ite_eq_ok_iff, and_true]

theorem screenNode_eq_ok {node : SyntaxNode} : screenNode node = .ok () ↔ node.Permitted := by
  cases node with
  | imports names => exact rejectModules_eq_ok
  | importsFrom module =>
      rw [screenNode, rejectModules_eq_ok, List.forall_mem_singleton, SyntaxNode.Permitted]
  | name id => simp only [screenNode, ite_eq_ok_iff, SyntaxNode.Permitted, and_true]
  | attributeOf attr => simp only [screenNode, ite_eq_ok_iff, SyntaxNode.Permitted, and_true]
  | other => exact iff_of_true rfl trivial

/-- The walk from the root meets every node, so the screen is about all of them. -/
theorem screenTree_eq_ok {tree : LabelTree SyntaxNode} :
    tree.walk.forM screenNode = .ok () ↔ ∀ node ∈ tree.labels, node.Permitted := by
  rw [forM_eq_ok_iff]
  simp only [LabelTree.mem_walk, screenNode_eq_ok]

variable {parser : PythonParser} {code screened : String}

theorem PythonParser.screenCalculation_eq_ok :
    parser.screenCalculation code = .ok screened ↔
      parser.Permits code ∧ screened = strip code := by
  rw [screenCalculation]
  by_cases isEmpty : strip code = ""
  · rw [if_pos isEmpty]
    exact iff_of_false (by simp) fun permitted => permitted.1.some isEmpty
  rw [if_neg isEmpty]
  by_cases long : maxCodeLength < (strip code).length
  · rw [if_pos long]
    exact iff_of_false (by simp) fun permitted => absurd permitted.1.short (by omega)
  rw [if_neg long]
  constructor
  · intro returned
    obtain ⟨tree, parsed, returned⟩ := bind_eq_ok.mp returned
    obtain ⟨⟨⟩, walked, returned⟩ := bind_eq_ok.mp returned
    refine ⟨⟨isEmpty, by omega, tree, mapError_eq_ok.mp parsed, ?_⟩, ?_⟩
    · exact screenTree_eq_ok.mp walked
    · exact (Except.ok.inj returned).symm
  · intro permitted
    obtain ⟨⟨_, _, tree, parsed, each⟩, rfl⟩ := permitted
    rw [parsed, Except.mapError]
    exact bind_eq_ok.mpr ⟨tree, rfl, bind_eq_ok.mpr ⟨(), screenTree_eq_ok.mpr each, rfl⟩⟩

theorem screenNode_fed (node : SyntaxNode) : screenNode node ≠ .error .starved := by
  have rejectFed : ∀ names, rejectModules names ≠ .error .starved := by
    intro names failed
    obtain ⟨name, -, raised⟩ := exists_of_forM_eq_error failed
    rw [rejectModule] at raised
    split at raised <;> simp at raised
  cases node with
  | imports names => exact rejectFed names
  | importsFrom module => exact rejectFed _
  | name id =>
      rw [screenNode]
      split <;> simp
  | attributeOf attr =>
      rw [screenNode]
      split <;> simp
  | other => exact nofun

/-- The screen has no loop that could run out of turns. -/
theorem PythonParser.screenCalculation_fed :
    parser.screenCalculation code ≠ .error .starved := by
  rw [screenCalculation]
  split
  · simp
  · split
    · simp
    · intro starved
      rcases bind_eq_error.mp starved with parsed | ⟨tree, -, starved⟩
      · obtain ⟨fault, -, same⟩ := mapError_eq_error.mp parsed
        cases fault <;> cases same
      · rcases bind_eq_error.mp starved with walked | ⟨⟨⟩, -, impossible⟩
        · obtain ⟨node, -, raised⟩ := exists_of_forM_eq_error walked
          exact screenNode_fed node raised
        · cases impossible

end ResearchPlatform
