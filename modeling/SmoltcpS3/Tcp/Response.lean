import SmoltcpS3.Connection.Served
import SmoltcpS3.Http.Response
import SmoltcpS3.Tcp.Delivery

namespace SmoltcpS3.Tcp

open Connection Delimiter EventRuns Http

end SmoltcpS3.Tcp
