import RuffleAvm1.Core.Names
import RuffleAvm1.Core.Value
import RuffleAvm1.Core.PropertyMap
import RuffleAvm1.Object.ScriptObject
import RuffleAvm1.Object.ArrayMirror
import RuffleAvm1.Object.Prototype
import RuffleAvm1.Object.Write
import RuffleAvm1.Object.Elements
import RuffleAvm1.Globals.Array
import RuffleAvm1.Sort.Strategy
import RuffleAvm1.Sort.Preorder
import RuffleAvm1.Sort.StdSort
import RuffleAvm1.Globals.SortCompare
import RuffleAvm1.Globals.ArraySort
import RuffleAvm1.Globals.ArrayRefinement
import RuffleAvm1.Globals.ArrayConstructor
import RuffleAvm1.Globals.Reachable
import RuffleAvm1.Display.Float
import RuffleAvm1.Display.Stage
import RuffleAvm1.Display.StageGeometry
