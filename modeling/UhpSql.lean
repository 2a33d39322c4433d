import UhpSql.Delimited
import UhpSql.DoubledDelimiter
import UhpSql.Glob
import UhpSql.Wire
import UhpSql.Rows
import UhpSql.StringUtils
import UhpSql.Redis
import UhpSql.Ast
import UhpSql.Catalog
import UhpSql.Protocol
import UhpSql.LenEncode
import UhpSql.Executor
import UhpSql.Table
import UhpSql.Session
import UhpSql.Grammar
import UhpSql.Steps
import UhpSql.RowValues
import UhpSql.ReadYourWrites
import UhpSql.Uninitialised
import UhpSql.InsertExact
import UhpSql.UpdateExact
import UhpSql.DeleteExact
import UhpSql.SelectExact
import UhpSql.LikeExact
import UhpSql.Isolation
import UhpSql.Recovery
import UhpSql.Restart
import UhpSql.CatalogAgreement
import UhpSql.Columns
import UhpSql.Paging
import UhpSql.Limits
import UhpSql.Framing
import UhpSql.ResultShape
import UhpSql.FieldRange
import UhpSql.Segmentation
import UhpSql.Phases
import UhpSql.Handshake
import UhpSql.AsyncBuffer
import UhpSql.SendThread
import UhpSql.FieldCodec
import UhpSql.Greeting
import UhpSql.Drop
import UhpSql.TaskManager
import UhpSql.ProtoParser
import UhpSql.ParserBounds
import UhpSql.Resumption
import UhpSql.Machine
import UhpSql.Ring
import UhpSql.RingQueue
import UhpSql.RingOffset
import UhpSql.BufferMemory
import UhpSql.GrowingQueue
import UhpSql.Debt
import UhpSql.ThreadPool
import UhpSql.IdleThreads
import UhpSql.RecvBuffer
import UhpSql.ServerLoop
import UhpSql.KeyedTables
import UhpSql.StoredTables
import UhpSql.DatabaseRuns
import UhpSql.Lr
import UhpSql.Symbols
import UhpSql.ParserTables
import UhpSql.ParserStates
import UhpSql.CommandTexts
