import St2.Python.Value
import St2.Python.Str
import St2.Python.Os
import St2.Client.Model
import St2.Client.ParamsTypes
import St2.Client.SortParameters
import St2.Client.Normalize
import St2.Client.Parameters
import St2.Client.ParameterMapping
import St2.Client.Poll
import St2.Client.Help
import St2.Client.Run
import St2.Client.Execution
import St2.Api.Actions
import St2.Api.Lifecycle
