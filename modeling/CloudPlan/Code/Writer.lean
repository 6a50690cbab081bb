import CloudPlan.Architecture.Basic
import CloudPlan.Code.Block
import CloudPlan.Code.Identifier

/-!
# Writers

How an engine spells blocks, and the files it puts them in.
-/

namespace CloudPlan.Code

/-- A writer for an engine. -/
structure Writer where
  /-- The engine. -/
  engine : String
  /-- The blocks that every project has. -/
  preamble : Architecture → List Block
  /-- The file that a block belongs in. -/
  fileFor : Block → String
  /-- The files that come first, in their order. -/
  fileOrder : List String
  /-- The text of a file with some blocks. -/
  render : List Block → String
  /-- The identifier that a name gives. -/
  identifier : String → String := Identifier.sanitize

namespace Writer

/-- The files of blocks: those that come first, and then the others as they are met. -/
def paths (writer : Writer) (blocks : List Block) : List String :=
  (writer.fileOrder ++ blocks.map writer.fileFor).eraseDups

/-- The blocks of a file, in their order. -/
def blocksIn (writer : Writer) (blocks : List Block) (path : String) : List Block :=
  blocks.filter (writer.fileFor · == path)

/-- The files that have blocks, with their blocks. -/
def route (writer : Writer) (blocks : List Block) : List (String × List Block) :=
  ((writer.paths blocks).map fun path => (path, writer.blocksIn blocks path)).filter
    (!·.2.isEmpty)

end Writer

end CloudPlan.Code
