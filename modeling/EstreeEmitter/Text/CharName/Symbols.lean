set_option autoImplicit false

/-! # Names of characters: Punctuation and symbols

Runs of neighbouring characters, each with the code point of the first one, in the notation of
`EstreeEmitter.Text.nameEntries`. -/

namespace EstreeEmitter.Text

/-- The names of the characters from U+2000 to U+2E7F. -/
def symbolNames : List (Nat × String) := [
  (0x2000, "aEN QUADaEM QUADaENxkaEMxkaTHREE-PER-EMxkaFOUR-PER-EMxkaSIX-PER-EMxkaFIGURExkavqxk
aTHINxkaHAIRxkazzWIDTHxkcNON-JOINERcJOINERaLEFT-TO-RIGHTtnaRIGHT-TO-LEFTtnaHYPHEN
aNON-BREAKING HYPHENaFIGUREotaENotaEMotarsmzapnzltdbthtdasuxcvwtnawbxcvwtnaxcLOW-9vwtn
bHIGH-REVERSED-9vwtnasupnvwtnawbpnvwtnapnLOW-9vwtnbHIGH-REVERSED-9vwtnaDAGGERapnDAGGERaBULLET
aywBULLETauvpjLEADERazcpjLEADERarsELLIPSISaHYPHENATION POINTatdwoaPARAGRAPHwo
aLEFT-TO-RIGHT EMBEDDINGaRIGHT-TO-LEFT EMBEDDINGaPOP DIRECTIONAL FORMATTINGaLEFT-TO-RIGHT OVERRIDE
aRIGHT-TO-LEFT OVERRIDEaNARROW NO-BREAKxkaPER MILLExabyeykxaaPRIMEapnPRIMEayxPRIMEawaPRIMEbpnPRIME
byxPRIMEaCARETaxcsvmlvwtnbwcmlvwtnaREFERENCEtnapnqdtnaINTERROBANGaOVERLINEaUNDERTIEaCHARACTER TIE
aCARET INSERTION POINTaASTERISMaHYPHEN BULLETaqoSLASHasuxmnkzvQUILLawbxmnkzvQUILLapnvvtnavvqdtn
aqdvvtnaTIRONIANxaETawaPILCROWxaangsxBULLETbwdBULLETathmxawawnaCLOSE UP
azcASTERISKS ALIGNED VERTICALLYaCOMMERCIALttxaaSWUNGotasdUNDERTIEaFLOWERvqtnaylpjvqavsPRIMEaqnpjvq
aqipjvqazcpjvqaqnpjtnapmojaTRICOLONazlqnplatqtoxkaWORD JOINERaFUNCTION APPLICATIONaINVISIBLEypbwo
bvj"),
  (0x2066, "aLEFT-TO-RIGHT ISOLATEaRIGHT-TO-LEFT ISOLATEaFIRST STRONG ISOLATE
aPOP DIRECTIONAL ISOLATEaINHIBIT SYMMETRIC SWAPPINGaACTIVATE SYMMETRIC SWAPPINGaINHIBITmpqkSHAPING
aACTIVATEmpqkSHAPINGaNATIONALpgSHAPESaNOMINALpgSHAPESaxvzzbstxgtaI"),
  (0x2074, "axvqnbqibxebwpbptbufbvjxabttbpzxabsuvfbwbvfbstxgtaNaSUBSCRIPTzzbuvbzcbylbqnbqibxebwpbpt
bufbvjxabttbpzxabsuvfbwbvf"),
  (0x2090, "astSUBSCRIPTxgtaAeEeOeXeSCHWAeHeKeLeMeNePeSeT"),
  (0x20A0, "aEURO-CURRENCYxaaocxaaCRUZEIROxaaFRENCH FRANCxaaLIRAxaaMILLxaaNAIRAxaaPESETAxaaRUPEExa
aWONxaaNEW SHEQELxaaDONGxaaEUROxaaKIPxaaTUGRIKxaaDRACHMAxaaGERMAN PENNYxaaPESOxaaGUARANIxaaAUSTRALxa
aHRYVNIAxaaCEDIxaaLIVRE TOURNOISxaaSPESMILOxaaTENGExaaINDIAN RUPEExaaTURKISH LIRAxaaNORDICtnxa
aMANATxaaRUBLExaaLARIxaaBITCOINxaaSOMxa"),
  (0x20D0, "aodsurkmbbwbrkmbbtgzltdvcbwxzltdvcbmmmtmbboamtmbbsumtmbbwbmtmbbwevcboawevcbmmwevcbylplmb
bqnplmbbENCLOSINGnwcxmcpecnwBACKSLASHbsuwbmtmbbENCLOSING SCREENcKEYCAPcUPWARDvlyubvzxivcbpnzlxsvc
bANNUITYxybyxUNDERDOTbWIDE BRIDGEmbbsxmtvcbtgpnxivcbwdrkzvnaprbsxrkzvnaprbsumtnbbwbmtnbbmxmb"),
  (0x2100, "aACCOUNT OFaADDRESSED TOyhSUBJECTaponpCaDEGREE CELSIUSanstdxyaCARE OFaCADA UNA
aEULER CONSTANTaSCRUPLEaDEGREE FAHRENHEITawkxgGbnpHaBLACK-LETTERnpHaponpHaPLANCK CONSTANTcvazcPI
awknpIaBLACK-LETTERnpIawknpLbxgLaL BmzxyaponpNaNUMEROxaaSOUND RECORDING COPYRIGHTawknpPaponpPcQ
awknpRaBLACK-LETTERnpRaponpRaPRESCRIPTION TAKEaRESPONSEaSERVICEtnaydxaaTRADEtnxaaVERSICLEaponpZ
aOUNCExaaOHMxaasdOHMxaaBLACK-LETTERnpZazaqyxgtaseaKELVINxaaANGSTROMxaawknpBaBLACK-LETTERnpC
aESTIMATEDxyawkxgEbnpEcFazanpFawknpMbxgOamexyaBETxyaGIMELxyaDALETxyaINFORMATION SOURCEawfnpQ
aFACSIMILExaapoxgPIcqrbnpqrcPIbN-ARY SUMMATIONazawjnpGdLawawjnpLazawjnpYapoITALICnpDcxgDdEdIdJ
aPROPERTYtdazaAMPERSANDaPERxaaAKTIESELSKABazaxgFaxyqjSAMARITAN SOURCEaVULGARqouvSEVENTHdNINTHdTENTH
dTHIRDczcTHIRDScuvFIFTHczcFIFTHScylFIFTHScqnFIFTHScuvSIXTHcqiSIXTHScuvpucylpvcqipvcwppv
aqoNUMERATORuvaROMAN NUMERALuvczccylcqncqicxecwpcptcufcyecELEVENcTWELVEcqfcuvrucqirucuvyk
axgROMAN NUMERALuvdzcdyldqndqidxedwpdptdufdyedELEVENdTWELVEdqfduvrudqiruduvykaROMAN NUMERALuvykC D
cqiykcyeykcwauvruastxgtawaCaROMAN NUMERALxeLATEqkcqfEARLYqkdykcuvruykaVULGARqozzTHIRDSazapgzccyl"),
  (0x2190, "asxmtazimtawdmtaprmtasuwbmtaUPppmtaujzsmtbpsmtaxjpsmtbzsmtasxmtzvxsawdmtzvxsasxWAVEmt
awdWAVEmtasxzcHEADEDmtazizcHEADEDmtawdzcHEADEDmtaprzcHEADEDmtasxmtzvyaawdmtzvyaasxmtqpmzazimtqpmz
awdmtqpmzaprmtqpmzaUPppmtzvBASEasxmtzvrrawdmtzvrrasxmtzvLOOPawdmtzvLOOPasuwbWAVEmtcmtzvxsaprZIGZAGmt
azimtzvTIPsxewdaprmtzvTIPsxewdawdmtzvoipraprmtzvoisxammysSEMICIRCLEmtaoaysSEMICIRCLEmtaujzsmtTOtgmz
asxmtTOmzvawdmtTOmzammuwnwmtaoauwnwmtasxrkzvnazieprazirkzvnawdesxawdrkzvnaziepraprrkzvnawdesx
awdmtvasxmtazimtsxOFprmtasxmtvawdmtbPAIREDmvaziPAIREDmvawdPAIREDmvaprPAIREDmvasxrkvawdrkawdrkvasxrk
asxpnmtzvxsasuwbpnmtzvxsawdpnmtzvxsasxpnmtazipnmtawdpnmtaprpnmtasuwbpnmtaUPpppnmtaujzspnmtbpspnmt
axjpspnmtbzspnmtasxyxmtawdyxmtasxSQUIGGLEmtawdSQUIGGLEmtazimtzvpnxsaprmtzvpnxsasxDASHEDmtaziDASHEDmt
awdDASHEDmtaprDASHEDmtasxmtTOmzawdmtTOmzasxzumtazizumtawdzumtaprzumtazizumtqpmzdON PEDESTALfzvrsmz
gzlmzcpnmteON PEDESTALawdzumtqpWALLaujzsmtTOoiaxjpsmtTOoiaUPppzumtawbmtzvxgnwaprmtsxOFzimtaylwdmv
asxmtzvzlxsawdmtzvzlxsasuwbmtzvzlxsasxmtzvpnzlxsawdmtzvpnzlxsasuwbmtzvpnzlxsasxOPEN-HEADEDmt
awdOPEN-HEADEDmtasuwbOPEN-HEADEDmtaqjALLaCOMPLEMENTaPARTIAL DIFFERENTIALaTHERE EXISTSbDOESukEXIST
aEMPTY SETaINCREMENTaNABLAaELEMENT OFaukAN ELEMENT OFaxgELEMENT OFaCONTAINS AS MEMBER
aDOESukCONTAIN AS MEMBERaxgCONTAINS AS MEMBERaEND OF PROOFaN-ARYvnbCOPRODUCTbSUMMATIONattxa
aMINUS-OR-PLUSxaapjvjaDIVISION SLASHaSETttamxuxaweuxaBULLETuxaxmROOTaCUBE ROOTaFOURTH ROOT
aPROPORTIONAL TOaINFINITYawbmlamlaMEASUREDmlaSPHERICALmlaDIVIDESaDOESukDIVIDEaPARALLEL TO
aukPARALLEL TOatfmkbORascaUNIONasbapnsbayxsbaCONTOURsbaSURFACEsbaVOLUMEsbaoasbbCONTOURsbammCONTOURsb
aTHEREFOREaBECAUSEaRATIOaPROPORTIONapjttaEXCESSaGEOMETRIC PROPORTIONaHOMOTHETICayouxawayoasdLAZY S
aSINE WAVEaWREATHvnaukyoattyoaASYMPTOTICALLYpyTOaukASYMPTOTICALLYpyTOaAPPROXIMATELYpyTO
bBUTukACTUALLYpyTOaNEITHER APPROXIMATELY NOR ACTUALLYpyTOamfpyTOaukmfpyTOamfpyORpyTOayxyoaALLpyTO
aqbTOaGEOMETRICALLYqbTOaDIFFERENCEneaAPPROACHESyhLIMITaGEOMETRICALLYpyTO
aAPPROXIMATELYpyTO ORyhIMAGE OFaIMAGE OF OR APPROXIMATELYpyTOaocpzapzocaweINpyTObpyTOaCORRESPONDS TO
aESTIMATESaEQUIANGULAR TOaxppzaoypyTOapyTO BY DEFINITIONaMEASURED BYaQUESTIONEDpyTOaukpyTO
aIDENTICAL TOaukIDENTICAL TOaSTRICTLYqbTOaszORpyTOaqxORpyTOaszvapyTOaqxvapyTOaszBUTukpyTO
aqxBUTukpyTOaMUCHszbqxaneaukqbTObszbqxaNEITHERszNORpyTObqxNORpyTOaszORqbTOaqxORqbTOaNEITHERszNORqbTO
bqxNORqbTOaszORqxaqxORszaNEITHERszNORqxbqxNORszavmaxuavmORpyTOaxuORpyTOavmORqbTOaxuORqbTO
aDOESukPRECEDEcSUCCEEDaxtOFaxwOFaukAxtOFcxwOFaxtOF ORpyTOaxwOF ORpyTOaNEITHER AxtOF NORpyTO
cxwOF NORpyTOaxtOFzvukpyTOaxwOFzvukpyTOaMULTISETbuabUNIONaxmIMAGE OFbORIGINAL OFbIMAGE OF ORpyTO
bORIGINAL OF ORpyTObCAPbCUPanxvjbttbypbDIVISION SLASHbpjuxbweuxbmxuxbpzbotaxnvjbttbypbpjuxawbxzasuxz
appxzaUPxzaASSERTIONaMODELSaTRUEaFORCESayxzlmzwbTURNSTILEapnzlmzpnwbTURNSTILEaDOESukPROVEaukTRUE
aDOESukFORCEaNEGATEDpnzlmzpnwbTURNSTILEavmUNDER RELATIONaxuUNDER RELATIONaNORMAL SUBGROUP OF
aCONTAINS AS NORMAL SUBGROUPaNORMAL SUBGROUP OF ORpyTOaCONTAINS AS NORMAL SUBGROUP ORpyTO
aORIGINAL OFaIMAGE OFaMULTIMAPaHERMITIAN CONJUGATE MATRIXaINTERCALATEaXORaNANDaNORawbmlzvARCbyu
aN-ARYtfmkcORbscbUNIONapeuxapjuxaxpuxaDIVISIONypaBOWTIEasuNORMAL FACTOR SEMIDIRECTvn
awbNORMAL FACTOR SEMIDIRECTvnasuSEMIDIRECTvnawbSEMIDIRECTvnawayopzaootfORcmkapnxtbxwbscbUNION
aPITCHFORKapymkPARALLEL TOaszzvpjaqxzvpjazmMUCHszcqxaszpyTO ORqxaqxpyTO ORszapyTO ORszdqxdvmdxu
aDOESukPRECEDE ORpycSUCCEED ORpyaukxmIMAGE OF ORpyTOcORIGINAL OF ORpyTOaxmIMAGE OF ORukpyTO
bORIGINAL OF ORukpyTOaszBUTukqbTOaqxBUTukqbTOavmBUTukqbTOaxuBUTukqbTOaukNORMAL SUBGROUP OF
aDOESukCONTAIN AS NORMAL SUBGROUPaukNORMAL SUBGROUP OF ORpyTOaDOESukCONTAIN AS NORMAL SUBGROUP ORpy
azlELLIPSISaMIDLINErsELLIPSISaUPwbpcELLIPSISappwbpcELLIPSISaELEMENT OFzvtgrsxsdzlmzAT END OFrsxs
axgELEMENT OFzvzlmzAT END OFrsxsaELEMENT OFzvpjmbdvbaxgELEMENT OFzvvbaELEMENT OFzvzedzcrsSTROKES
aCONTAINSzvtgrsxsczlmzAT END OFrsxsaxgCONTAINSzvzlmzAT END OFrsxsaCONTAINSzvvbaxgCONTAINSzvvb
aZ NOTATION BAG MEMBERSHIPaDIAMETERxaaELECTRICmtaHOUSEaUPmuappmuaPROJECTIVEaPERSPECTIVEaWAVYtd
asuCEILINGawbCEILINGasuFLOORawbFLOORanjwbCROPbsuCROPayswbCROPbsuCROPawaukxaaxmtjaARCaSEGMENTaSECTOR
aydRECORDERaPOSITION INDICATORaVIEWDATAxmaPLACE OF INTERESTxaazaukxaaWATCHaHOURGLASSayssuoibwboi
anjsuoibwboiaysrdsbanjrdsbaFROWNaSMILEaUPmunezcrsBARSaOPTION KEYaERASE TOyhwbaX IN A RECTANGLE BOX
aKEYBOARDasvmlnkawcmlnkaERASE TOyhsuaBENZENEweaCYLINDRICITYaALL AROUND-PROFILEaSYMMETRYaTOTAL RUNOUT
aDIMENSION ORIGINaCONICAL TAPERaSLOPEaCOUNTERBOREaCOUNTERSINKaAPL FUNCTIONALxyI-BEAMdSQUISH QUAD
dQUADpyeDIVIDEepeeJOTenwdnwSTILEeJOTdSLASHmzdBACKSLASHmzdQUAD SLASHeBACKSLASHeszeqxdsxVANEdwdVANE
dQUADsxmtewdmtdnwBACKSLASHdppxzzedoySTILEdQUADppCARETeoydppxzJOTdziVANEdQUADzimtdUPxzvbdDEL STILE
dQUAD UP CARETeDELdUPxzJOTdprVANEdQUADprmtdQUOTEzedoyzedpezedJOTzednwzedUP SHOE JOTdQUOTE QUADdnwxp
dQUADocdUPxzpbdDELpbdxppbdJOTpbdnwpbdppSHOE STILEdsuSHOE STILEdyopbdqxpbdoemzdDELyodZILDEdSTILEyo
dwnzedQUADukpyevvdppCARETyodUP CARETyodsedRHOdutdmhzedpxzedsezedutzedmhaukCHECKtnawbmlzvprZIGZAGmt
aSHOULDEREDuwBOXaBELLxyazltdzvtspjaINSERTIONxyaCONTINUOUS UNDERLINExyaDISCONTINUOUS UNDERLINExy
aEMPHASISxyaCOMPOSITIONxyazuxmzvnszltdaENTERxyaALTERNATIVE KEYxyaHELMxyanxrsmzzvNOTCHbyupp
aBROKENnwzvNORTHWESTmtaUNDOxyaMONOSTABLExyaHYSTERESISxyaOPEN-CIRCUIT-OUTPUT H-TYPExybL-TYPExy
aPASSIVE-PULL-DOWN-OUTPUTxyaPASSIVE-PULL-UP-OUTPUTxyaDIRECT CURRENTxyqkzcaSOFTWARE-FUNCTIONxy
aAPL FUNCTIONALxyQUADaDECIMALwoKEYxyaPREVIOUS PAGEaNEXT PAGEaPRINT SCREENxyaCLEAR SCREENxyasuvfzgrr
cEXTENSIONctirrawbvfzgrrcEXTENSIONctirrasuxmnkzgoidEXTENSIONdtioiawbxmnkzgoidEXTENSIONdtioi
asuoonkzgrrdtsPIECEdtirraoonkEXTENSIONawboonkzgrrdtsPIECEdtirrasbEXTENSIONarstdEXTENSION
azgsuORtiwboonkwlbwbORtisuoonkwlaSUMMATIONysbnjaysxmnkanjxmnkdvaysxmnkaRADICALxynjasuzlBOXtd
awbzlBOXtdarsSCAN LINE-1cLINE-3cLINE-7cLINE-9aDENTISTRYxytczlmkyswbfnjwbezvnwdppmkrszvnwdUPmkrszvnw
dzlzvyudppmkrszvyudUPmkrszvyudzlmkWAVEdppmkrszvWAVEdUPmkrszvWAVEdppmkrsdUPmkrsdzlmkyssufnjsuaxmFOOT
aRETURNxyaEJECTxyazltdEXTENSIONaMETRICALnlbtgvawxbwxvatgbtgvazcSHORTSbzcSHORTSvatgdJOINEDbTRISEME
bTETRASEMEbPENTASEMEaEARTH GROUNDaFUSEaysvfanjvfaysoonkanjoonkaysytwvnkanjytwvnkazuTRAPEZIUM
aBENZENEwezvnwaSTRAIGHTNESSaFLATNESSaAC CURRENTaELECTRICALscaDECIMAL EXPONENTxyangwcpnyubsvpnyu
bzfpnyubpqpnyubwcpnyuzvzlmzbsvpnyuzvzlmzbwcyuzvpnzlmzaALARM CLOCKaSTOPWATCHaTIMER CLOCK
aHOURGLASSzvFLOWING SANDangtqsvyucwcyuczfyucpqyuapnzlmzangxmqjxqbnwqjRECORDaPOWERxybON-OFFxybONxy
bSLEEPxyaOBSERVER EYExyaxyqjNULLcSTART OF HEADINGeTEXTcEND OF TEXTeTRANSMISSIONcENQUIRYcACKNOWLEDGE
cBELLcBACKSPACEcrsTABULATIONctdFEEDczlTABULATIONcqkFEEDcCARRIAGE RETURNcSHIFT OUTdIN
cDATA LINK ESCAPEcDEVICE CONTROLuvezceyleqncucACKNOWLEDGEcSYNCHRONOUS IDLEcEND OF TRANSMISSIONnh
cCANCELcEND OFtqcSUBSTITUTEcESCAPEcFILEwocGROUPwocRECORDwocUNITwocxkcDELETEaBLANKxyauwBOX
axyqjNEWLINEcDELETEqkzccSUBSTITUTEqkzc"),
  (0x2440, "aOCRrrbCHAIRbFORKbsdFORKbBELT BUCKLEbBOW TIEbBRANCH BANK IDENTIFICATIONbAMOUNT OF CHECK
botbCUSTOMER ACCOUNTunbpnBACKSLASH"),
  (0x2460, "anxpguvczccylcqncqicxecwpcptcufbunyecELEVENcTWELVEcTHIRTEENcFOURTEENcFIFTEENcSIXTEEN
cSEVENTEENcEIGHTEENcNINETEENczbaPARENTHESIZEDpguvczccylcqncqicxecwpcptcufbunyecELEVENcTWELVE
cTHIRTEENcFOURTEENcFIFTEENcSIXTEENcSEVENTEENcEIGHTEENcNINETEENczbapguvqqxqbzcqqxqbylqqxqbqnqqxq
bqiqqxqbxeqqxqbwpqqxqbptqqxqbufqqxqaunyeqqxqbELEVENqqxqbTWELVEqqxqbTHIRTEENqqxqbFOURTEENqqxq
bFIFTEENqqxqbSIXTEENqqxqbSEVENTEENqqxqbEIGHTEENqqxqbNINETEENqqxqbzbqqxqaPARENTHESIZEDstxgtaAeBeCeDeE
eFeGeHeIeJeKeLeMeNeOePeQeReSeTeUeVeWeXeYeZanxstnptaAeBeCeDeEeFeGeHeIeJeKeLeMeNeOePeQeReSeTeUeVeWeXeY
eZcxgtaAeBeCeDeEeFeGeHeIeJeKeLeMeNeOePeQeReSeTeUeVeWeXeYeZbpgzzaucnxunELEVENdTWELVEdTHIRTEEN
dFOURTEENdFIFTEENdSIXTEENdSEVENTEENdEIGHTEENdNINETEENdzbapnnxpguvdzcdyldqndqidxedwpdptdufcunye
aucnxpgzzaBOX DRAWINGStcrscrnrsctczlcrnzlctcyxotrscrnyxotrsctcyxotzlcrnyxotzlctcvsotrscrnvsotrs
ctcvsotzlcrnvsotzlctcppmkwbcpptcmkwbrndrnmkwbtccrnppmkwbctcppmksucpptcmksurndrnmksutccrnppmksu
ctcUPmkwbcUPtcmkwbrndrnmkwbtccrnUPmkwbctcUPmksucUPtcmksurndrnmksutccrnUPmksuctczlmkwbczltcmkwbrn
cUPrnmkwbpptccpprnmkwbUPtcczlrnmkwbtccpptcmkwbUPrncUPtcmkwbpprncrnzlmkwbctczlmksuczltcmksurn
cUPrnmksupptccpprnmksuUPtcczlrnmksutccpptcmksuUPrncUPtcmksupprncrnzlmksuctcppmkrscsurnmkwbpptc
cwbrnmksupptccpptcmkrsrndrnmkrstccwbtcmksupprncsutcmkwbpprncrnppmkrsctcUPmkrscsurnmkwbUPtc
cwbrnmksuUPtccUPtcmkrsrndrnmkrstccwbtcmksuUPrncsutcmkwbUPrncrnUPmkrsctczlmkrscsurnmkwbzltc
cwbrnmksuzltcczltcmkrsrncUPrnmkpprstccpprnmkUPrstcczlrnmkrstccsuUPrnmkwbpptccwbUPrnmksupptc
csupprnmkwbUPtccwbpprnmksuUPtccpptcmkUPrsrncUPtcmkpprsrncwbtcmksuzlrncsutcmkwbzlrncrnzlmkrsctcpnotrs
crnpnotrsctcpnotzlcrnpnotzlcpnrsdzlcppxcmkwbpndpnmkwbxccpnppmkwbcppxcmksupndpnmksuxccpnppmksu
cUPxcmkwbpndpnmkwbxccpnUPmkwbcUPxcmksupndpnmksuxccpnUPmksuczlxcmkwbpndpnmkwbxccpnzlmkwbczlxcmksupn
dpnmksuxccpnzlmksucppxcmkrspndpnmkrsxccpnppmkrscUPxcmkrspndpnmkrsxccpnUPmkrsczlxcmkrspndpnmkrsxc
cpnzlmkrsctcARCppmkwbgsueUPmksugwbdpczgwbTOtisufsuTOtiwbeojdsudUPdwbdppcrnsudUPdwbdppctcsumkrnwb
dUPmkrnppcrnsumktcwbdUPmktcppazgrdnhatiuvpunhcvtnhbylpvnhbrdnhbqipvnhbylvunhbwppvnhaqqnhasuwppvnh
bylvunhbqipvnhbrdnhbylpvnhbuvvtnhcpunhawbrdnhatcSHADEatqSHADEaDARK SHADEazguvpunhawbuvpunhavrtisucwb
bzgsudmktisumktiwbfwbezgwbmktisuiwbcwbdmktisugmktiwbangxmazuxmczvROUNDED CORNERScCONTAININGngxgxm
axmzvrsFILLczlFILLcORTHOGONAL CROSSHATCH FILLczgsuTOtiwbFILLdwbTOtisuFILLcpcCROSSHATCH FILLangxgxm
azuxgxmangRECTANGLEazuRECTANGLEangzlRECTANGLEazuzlRECTANGLEangPARALLELOGRAMazuPARALLELOGRAMangzfyu
azuzfyuangzfxgyuazuzfxgyuangwcyuazuwcyuangwcxgyuazuwcxgyuangwcPOINTERazuwcPOINTERangpqyuazupqyu
angpqxgyuazupqxgyuangsvyuazusvyuangsvxgyuazusvxgyuangsvPOINTERazusvPOINTERangpeazupe
cCONTAININGngxgpeaFISHEYEatjazunwapmnwanwzvzlFILLaBULLSEYEangnwanwzvsurdngcwbrdngctirdngczgrdng
dwbvrngcALL BUTzgsuvrngasurdngnwawbrdngnwaINVERSE BULLETbzunwazgrdINVERSEzunwatirdINVERSEzunw
azgsuvrCIRCULAR ARCbwbvrCIRCULAR ARCatiwbvrCIRCULAR ARCbsuvrCIRCULAR ARCazgrdnwatirdnwangtiwbyucsuyu
bzgsuyucwbyuazuBULLETaxmzvsurdngcwbrdngczgsupcrdngctiwbpcrdngazuxmzvzlBISECTINGtdbzfyuzvpj
azfyuzvsurdngdwbrdngassnwazuxmzvzgsuvrdtisuvrewbvrdzgwbvrbnwzvzgsuvrdtisuvrewbvrdzgwbvrazgsuyubwbyu
atisuyuazutqxmangtqxmazutqxgxmangtqxgxmatiwbyuangSUNzvRAYSaCLOUDaUMBRELLAaSNOWMANaCOMETangxpazuxp
aLIGHTNINGaTHUNDERSTORMaSUNaASCENDING NODEaDESCENDING NODEaCONJUNCTIONaOPPOSITIONangydazuyd
aBALLOT BOXczvCHECKdXaSALTIREaUMBRELLAzvRAIN DROPSaHOT BEVERAGEazuSHOGI PIECEangSHOGI PIECEaSHAMROCK
awawfFLORALrlBULLETangsuvlrxbwbvlrxazusuvlrxbUPvlrxbwbvlrxbppvlrxaSKULLmkCROSSBONESaCAUTIONxa
aRADIOACTIVExaaBIOHAZARDxaaCADUCEUSaANKHaORTHODOXojaCHI RHOaojOF LORRAINEcJERUSALEMaxpmkCRESCENT
aFARSIxyaADI SHAKTIaHAMMERmkSICKLEaPEACExyaYIN YANGaTRIGRAMqjHEAVENcLAKEcFIREcTHUNDERcWINDcWATER
cMOUNTAINcEARTHaWHEEL OF DHARMAazuFROWNINGqebxhqeangxhqeazuSUNzvRAYSaFIRSTvttvaLASTvttvaMERCURY
aFEMALExaaEARTHaMALExaaJUPITERaSATURNaURANUSaNEPTUNEaPLUTOaARIESaTAURUSaGEMINIaCANCERaLEOaVIRGO
aLIBRAaSCORPIUSaSAGITTARIUSaCAPRICORNaAQUARIUSaPISCESazunvKINGcQUEENcROOKcBISHOPcsocPAWNangnvKING
cQUEENcROOKcBISHOPcsocPAWNbSPADE SUITazurlSUITbpeSUITangCLUB SUITazuSPADE SUITangrlSUITbpeSUIT
azuCLUB SUITaHOT SPRINGSavtNOTEapuNOTEaBEAMEDpuNOTESbSIXTEENTH NOTESaMUSIC FLATxabNATURALxabSHARPxa
azsSYRIACojapsSYRIACojaUNIVERSAL RECYCLINGxyaRECYCLINGxyqjTYPE-1 PLASTICSdTYPE-2 PLASTICS
dTYPE-3 PLASTICSdTYPE-4 PLASTICSdTYPE-5 PLASTICSdTYPE-6 PLASTICSdTYPE-7 PLASTICSdGENERIC MATERIALS
angUNIVERSAL RECYCLINGxyaRECYCLED PAPERxyaPARTIALLY-RECYCLED PAPERxyaPERMANENT PAPERxaaWHEELCHAIRxy
aDIE FACE-1bFACE-2bFACE-3bFACE-4bFACE-5bFACE-6azunwzvpjwbdzcplangnwzvzupjwbdzczuplaMONOGRAMqjYANG
cYINaDIGRAMqjGREATER YANGcLESSER YINdYANGcGREATER YINazuFLAGangFLAGaHAMMERmkPICKaANCHORaokSWORDS
aSTAFF OF AESCULAPIUSaSCALESaALEMBICaFLOWERaGEARaSTAFF OF HERMESaATOMxyaFLEUR-DE-LISaOUTLINEDzuxp
aylLINES CONVERGINGwbdsuaWARNINGxaaroVOLTAGExaaDOUBLED FEMALExabMALExaaINTERLOCKED FEMALEmkMALExa
aMALEmkFEMALExabzvxsxadmkMALEmkFEMALExaazlMALEzvxsxaarsMALEzvxsxaatqzunwbngnwbxgzunwaMARRIAGExy
aDIVORCExyaUNMARRIED PARTNERSHIPxyaCOFFINaFUNERAL URNaNEUTERaCERESaPALLASaJUNOaVESTAaCHIRON
angtvLILITHaSEXTILEaSEMISEXTILEaQUINCUNXaSESQUIQUADRATEaSOCCER BALLaBASEBALLaxnKEYazuDRAUGHTS MAN
cKINGangDRAUGHTS MANcKINGaSNOWMAN WITHOUT SNOWaSUN BEHIND CLOUDaRAINangSNOWMANaTHUNDER CLOUDmkRAIN
azazuSHOGI PIECEbngSHOGI PIECEazupeINxmaomLANESaDISABLED CARaOPHIUCHUSaPICKaCAR SLIDINGaHELMETzvzuoj
anxomLANESaCHAINSaNO ENTRYamiONE-WAYsuWAY TRAFFICangTWO-WAYsuWAY TRAFFICazuTWO-WAYsuWAY TRAFFIC
angsuLANE MERGEazusuLANE MERGEaDRIVE SLOWxaarnzupqyuasuobENTRYaxnSALTIREaFALLINGpcINzunwINngxm
angTRUCKaRESTRICTEDsuENTRY-1cENTRY-2aASTRONOMICALxyqjURANUSarnnwzvxsmkzcplmbaPENTAGRAM
aRIGHT-HANDED INTERLACED PENTAGRAMaLEFT-HANDED INTERLACED PENTAGRAMasdPENTAGRAMangojON SHIELD
aSHINTO SHRINEaCHURCHaCASTLEaHISTORIC SITEaGEAR WITHOUT HUBbzvHANDLESaMAPxyqjLIGHTHOUSEaMOUNTAIN
aUMBRELLA ON GROUNDaFOUNTAINaFLAG IN HOLEaFERRYaSAILBOATaxmqnCORNERSaSKIERaICE SKATEavhzvBALLaTENT
aJAPANESE BANKxyaHEADSTONE GRAVEYARDxyaFUEL PUMPaCUP ONngxmazuFLAGzvrstsngSTRIPEangSAFETY SCISSORS
azgBLADE SCISSORSangSCISSORSatiBLADE SCISSORSazuSCISSORSbrnCHECKtnaydLOCATIONxaaTAPE DRIVEaAIRPLANE
aENVELOPEavxFISTbrfaVICTORYrfaWRITINGrfatiwbPENCILaPENCILazgwbPENCILazuNIBangNIBaCHECKtnarnCHECKtn
auaXarnuaXaBALLOT XarnBALLOT XaOUTLINEDqyojarnqyojauwnsojarnuwnsojastojawszustojaOUTLINEDstoj
aMALTESEojaxpOF DAVIDaqnycmxbBALLOON-SPOKEDmxarnqnBALLOON-SPOKEDmxaqnCLUB-SPOKEDmxangqnvkxpazuqnvkxp
aSPARKLESaSTRESS OUTLINEDzuxpanxzuxpauwnsngxpangnszuxpaOUTLINEDngxparnOUTLINEDngxpaPINWHEELxpawszuxp
arnmxauwnsmxaptxlmxbvkngxpcPINWHEELxpaxevkngxpaptvkRECTILINEARngxparnptvkRECTILINEARngxp
aTWELVEvkngxpaSIXTEENvkmxaycmxauwnsycmxarnycmxaxePETALLEDngmkzuFLORETTEangFLORETTEazuFLORETTE
aptPETALLED OUTLINEDngFLORETTEanxuwnsptvkxparnycPINWHEELmxaSNOWFLAKEaTIGHT TRIFOLIATE SNOWFLAKE
arnCHEVRON SNOWFLAKEaSPARKLEarnSPARKLEaBALLOON-SPOKEDmxaptycPROPELLERmxarnptycPROPELLERmxaojtn
awszunwaucxnojtnatiwbDROP-SHADOWEDzuxmazgwbDROP-SHADOWEDzuxmatiwbwszuxmazgwbwszuxmangvvtnuzazuvvtnuz
bqdtnuzangpettzuXarnqdtnxyatczlmzatqzlmzarnzlmzbxczaoevwtnuzcoevwtnuzbpnzaoevwtnuzcoevwtnuz
bthxcoevwtnuzcpnoevwtnuzaCURVED STEM PARAGRAPHxauzarnqdtnuzbrlqdtnuzbngrlawfrnngrlBULLETaFLORALrl
awfFLORALrlBULLETatqsuvfuzbwbvfuzbFLATTENEDsuvfuzcwbvfuzbsvmlnkuzbwcmlnkuzarnsvmlvwtnuzbwcmlvwtnuz
bsvmlnkuzbwcmlnkuzatcsuytwvnkuzbwbytwvnkuzatqsuoonkuzbwboonkuzaDINGBATucnxpguvezceyleqneqiexeewpept
eufdunyebnxwjpguvezceyleqneqiexeewpepteufdunyebucnxwjpguvfzcfylfqnfqifxefwpfptfufeunye
arnWIDE-HEADEDwdmtbvjxabttxabDIVISIONxabxjpsmtbwdmtbujpsmtaDRAFTING POINTwdmtarnROUND-TIPPEDwdmt
ayvwdmtarnyvwdmtaDASHEDyvwdmtarnDASHEDyvwdmtangwdmtaTHREE-D TOP-LIGHTEDwdmubBOTTOM-LIGHTEDwdmu
angwdmuarnngCURVEDprmkwdmtdzimkwdmtaSQUATngwdmtarnCONCAVE-POINTEDngwdmtaRIGHT-SHADEDzuwdmt
aLEFT-SHADEDzuwdmtaBACK-TILTEDwszuwdmtaFRONT-TILTEDwszuwdmtarntiRIGHT-SHADOWEDzuwdmt
bzgRIGHT-SHADOWEDzuwdmtaNOTCHEDtiRIGHT-SHADOWEDzuwdmtaooLOOPaNOTCHEDzgRIGHT-SHADOWEDzuwdmt
anxrnzuwdmtaWHITE-FEATHEREDwdmtaBLACK-FEATHEREDxjpsmtbwdmtbujpsmtarnBLACK-FEATHEREDxjpsmtcwdmt
cujpsmtaTEARDROP-BARBEDwdmtarnTEARDROP-SHANKEDwdmtaWEDGE-TAILEDwdmtarnWEDGE-TAILEDwdmt
aOPEN-OUTLINEDwdmtapnooLOOPaylDIMENSIONALmlazuyuCONTAININGxgzuyuaPERPENDICULARauwxtbxw
asuS-SHAPED BAG DELIMITERawbS-SHAPED BAG DELIMITERaORzvpjrzavzxiPRECEDINGxtaxwPRECEDINGxiazlmzzvrsxs
atoRISINGpcatgDIVISIONatoFALLINGpcaxntfmkcORazupezvCENTREDpjamkzvpjaELEMENT OF OPENINGziatiwboizvpj
azgsuoizvpjasuOUTER JOINawbOUTER JOINaqqOUTER JOINassUPxzbppxzasumkwbpnTURNSTILEdxzbMULTIMAPatgwbxz
bsuxzaUPxzzvnwmbatjDIVIDED BYrsRULEazuCONCAVE-SIDEDpedzvsxTICKewdTICKbxmzvsxTICKdwdTICKatosuzuxmnk
bwbzuxmnkbsumlnkbwbmlnkbsupnmlnkbwbpnmlnkbsuzuytwvnkbwbzuytwvnkbsuFLATTENEDvfbwbFLATTENEDvfazivsmt
aprvsmtammGAPPEDnwmtaoaGAPPEDnwmtawbmtzvnxvjatgsxmtbwdmtbsuwbmtbsxpnmtbwdpnmtbsuwbpnmtbsxmtqpmz
bwdmtqpmzbsxpnmtqpmzbwdpnmtqpmzcSQUIGGLEmtaBRAILLE PATTERN BLANKcDOTS-1cDOTS-2cDOTS-12cDOTS-3
cDOTS-13cDOTS-23cDOTS-123cDOTS-4cDOTS-14cDOTS-24cDOTS-124cDOTS-34cDOTS-134cDOTS-234cDOTS-1234cDOTS-5
cDOTS-15cDOTS-25cDOTS-125cDOTS-35cDOTS-135cDOTS-235cDOTS-1235cDOTS-45cDOTS-145cDOTS-245cDOTS-1245
cDOTS-345cDOTS-1345cDOTS-2345cDOTS-12345cDOTS-6cDOTS-16cDOTS-26cDOTS-126cDOTS-36cDOTS-136cDOTS-236
cDOTS-1236cDOTS-46cDOTS-146cDOTS-246cDOTS-1246cDOTS-346cDOTS-1346cDOTS-2346cDOTS-12346cDOTS-56
cDOTS-156cDOTS-256cDOTS-1256cDOTS-356cDOTS-1356cDOTS-2356cDOTS-12356cDOTS-456cDOTS-1456cDOTS-2456
cDOTS-12456cDOTS-3456cDOTS-13456cDOTS-23456cDOTS-123456cDOTS-7cDOTS-17cDOTS-27cDOTS-127cDOTS-37
cDOTS-137cDOTS-237cDOTS-1237cDOTS-47cDOTS-147cDOTS-247cDOTS-1247cDOTS-347cDOTS-1347cDOTS-2347
cDOTS-12347cDOTS-57cDOTS-157cDOTS-257cDOTS-1257cDOTS-357cDOTS-1357cDOTS-2357cDOTS-12357cDOTS-457
cDOTS-1457cDOTS-2457cDOTS-12457cDOTS-3457cDOTS-13457cDOTS-23457cDOTS-123457cDOTS-67cDOTS-167
cDOTS-267cDOTS-1267cDOTS-367cDOTS-1367cDOTS-2367cDOTS-12367cDOTS-467cDOTS-1467cDOTS-2467cDOTS-12467
cDOTS-3467cDOTS-13467cDOTS-23467cDOTS-123467cDOTS-567cDOTS-1567cDOTS-2567cDOTS-12567cDOTS-3567
cDOTS-13567cDOTS-23567cDOTS-123567cDOTS-4567cDOTS-14567cDOTS-24567cDOTS-124567cDOTS-34567
cDOTS-134567cDOTS-234567cDOTS-1234567cDOTS-8cDOTS-18cDOTS-28cDOTS-128cDOTS-38cDOTS-138cDOTS-238
cDOTS-1238cDOTS-48cDOTS-148cDOTS-248cDOTS-1248cDOTS-348cDOTS-1348cDOTS-2348cDOTS-12348cDOTS-58
cDOTS-158cDOTS-258cDOTS-1258cDOTS-358cDOTS-1358cDOTS-2358cDOTS-12358cDOTS-458cDOTS-1458cDOTS-2458
cDOTS-12458cDOTS-3458cDOTS-13458cDOTS-23458cDOTS-123458cDOTS-68cDOTS-168cDOTS-268cDOTS-1268cDOTS-368
cDOTS-1368cDOTS-2368cDOTS-12368cDOTS-468cDOTS-1468cDOTS-2468cDOTS-12468cDOTS-3468cDOTS-13468
cDOTS-23468cDOTS-123468cDOTS-568cDOTS-1568cDOTS-2568cDOTS-12568cDOTS-3568cDOTS-13568cDOTS-23568
cDOTS-123568cDOTS-4568cDOTS-14568cDOTS-24568cDOTS-124568cDOTS-34568cDOTS-134568cDOTS-234568
cDOTS-1234568cDOTS-78cDOTS-178cDOTS-278cDOTS-1278cDOTS-378cDOTS-1378cDOTS-2378cDOTS-12378cDOTS-478
cDOTS-1478cDOTS-2478cDOTS-12478cDOTS-3478cDOTS-13478cDOTS-23478cDOTS-123478cDOTS-578cDOTS-1578
cDOTS-2578cDOTS-12578cDOTS-3578cDOTS-13578cDOTS-23578cDOTS-123578cDOTS-4578cDOTS-14578cDOTS-24578
cDOTS-124578cDOTS-34578cDOTS-134578cDOTS-234578cDOTS-1234578cDOTS-678cDOTS-1678cDOTS-2678cDOTS-12678
cDOTS-3678cDOTS-13678cDOTS-23678cDOTS-123678cDOTS-4678cDOTS-14678cDOTS-24678cDOTS-124678cDOTS-34678
cDOTS-134678cDOTS-234678cDOTS-1234678cDOTS-5678cDOTS-15678cDOTS-25678cDOTS-125678cDOTS-35678
cDOTS-135678cDOTS-235678cDOTS-1235678cDOTS-45678cDOTS-145678cDOTS-245678cDOTS-1245678cDOTS-345678
cDOTS-1345678cDOTS-2345678cDOTS-12345678awdzdmtzvzlxsepnzlxsasxpnmtzvzlxsawdpnmtzvzlxs
asuwbpnmtzvzlxsawdzdmtqpmzasxpnmtqpmzawdpnmtqpmzaprmtzvrsxsazimtzvrsxsbyxmtapryxmtasxpnotmtawdpnotmt
asxyxotmtawdyxotmtbzdyxotmtbmtzvpmSTEMazimtTOmzaprmtTOmzawdmtzvyazvzlxsfpnzlxsbzdmtzvyafzvzlxs
gpnzlxsasxARROW-TAILawdARROW-TAILasxpnARROW-TAILawdpnARROW-TAILasxmtTOngpeawdmtTOngpeasxmtqpmzTOngpe
awdmtqpmzTOngpeaujzsmkxjpsmtbpsmkxjzsmtbzsmtzvrrbpsmtzvrraxjpsmtzvrrbzsmtzvrraujzsmtmkujpsmt
bpsmtmkxjpsmtaxjpsmtmkxjzsmtbzsmtmkujzsmtaRISINGpcomFALLINGpcaFALLINGpcomRISINGpcaxjpsmtomujpsmt
aujpsmtomxjpsmtaFALLINGpcomujpsmtaRISINGpcomxjpsmtaujpsmtomujzsmtbzsmtomujpsmtaWAVEmtvlDIRECTLYwb
amtvlwdTHEN CURVINGzifprcprTHEN CURVINGsxfwdaRIGHT-SIDE ARCoamtaLEFT-SIDE ARCmmmtaysARCmmmt
anjARCmmmtaysARCoamtzvttcmmmtzvvjatiwbSEMICIRCULARoamtbsuSEMICIRCULARmmmtammobnwmtaoaobnwmt
awdmtmbwxsxmtasxmtmbwxwdmtawxwdmtmbsxmtawdmtzvvjnbasxmtzvvjnbawdmtymXasuwbmtymxgnwazizdmtqpxgnw
asunaUPwbnapprkcppwbnaUPrkaUPnawbppnasurkcsuppnawbrkasunaUPwbnaUPrkaUPnawbppnawbrkasunappwbnapprk
aUPnasuppnasurkasxrkzvnaUP TOmzawdrkzvnaUP TOmzazirkzvnawbTOmzaprrkzvnawbTOmzasxrkzvnappTOmz
awdrkzvnappTOmzazirkzvnasuTOmzaprrkzvnasuTOmzasxrkzvnaUPqpmzawdrkzvnaUPqpmzazirkzvnawbqpmz
aprrkzvnawbqpmzasxrkzvnappqpmzawdrkzvnappqpmzazirkzvnasuqpmzaprrkzvnasuqpmzasxrkzvnaUPmbsxrkzvnapp
azirkzvnasuBESIDEzirkzvnawbawdrkzvnaUPmbwdrkzvnappaprrkzvnasuBESIDEprrkzvnawbasxrkzvnaUPmbwdrkzvnaUP
eppmbwdrkzvnappawdrkzvnaUPmbsxrkzvnaUPeppmbsxrkzvnappasxrkzvnaUPmbtgoteppnbtgotawdrkzvnaUPmbtgot
eppnbtgotazirkzvnasuBESIDEprrkzvnawbaprrkzvnasuBESIDEzirkzvnawbawbpnmtzvROUNDED HEADapzxambwdmt
ayouxmbwdmtasxmtmbyouxawdmtmbyouxdmfpyTOaszmbsxmtasxmtymszaqxmbwdmtaxtmbwdmtasxmtymxtaxwmbsxmt
asuFISHyaawbFISHyaaUP FISHyaappFISHyaayxzlmzDELIMITERaZ NOTATION SPOTcTYPEocasuzuoonkawbzuoonk
asuzuvfawbzuvfaZ NOTATIONsuIMAGEnkcwbIMAGEnkcsuBINDINGnkcwbBINDINGnkasuxmnkzvzeawbxmnkzvze
asuxmnkzvTICK INysoiawbxmnkzvTICK INnjoiasuxmnkzvTICK INnjoiawbxmnkzvTICK INysoiasumlnkzvpj
awbmlnkzvpjasuARCsznkawbARCqxnkapnsuARCqxnkbwbARCsznkasungytwvnkawbngytwvnkapmFENCEazlZIGZAGtd
aMEASUREDmlOPENINGsuawbmlzkzvxmaMEASUREDwbmlzvpjamlzvSrzamdmlaSPHERICALmlOPENINGsudUPazamlawaml
amlzvzeawamlzvzeauqmlOPENING UPdppaMEASUREDmlzvuwARM ENDING INmtvlUPmkwblsujppmkwblsujwbmkUPjsumkUP
jwbmkppjsumkppawaEMPTY SETaEMPTY SETzvvbdxgnwmbdwbmtmbdsumtmbanwzvrsmzanxzlmzbPARALLELbvzxi
bPERPENDICULARanwDIVIDED BYrsmzmkysrdDIVIDED BYzlmzbzvSUPERIMPOSED X
anxANTICLOCKWISE-ROTATED DIVISIONxaaUPmtymnwanxzuBULLETbBULLETbszbqxanwzvxgnwTOyhwb
czcrsSTROKES TOyhwbaxnRISINGpcSLASHbFALLINGpcSLASHbmxbxgnwbxmazcJOINED SQUARESayuzvpjmbczeaS INyu
ayuzvSERIFS ATnjawbyumbsuyuasuyuBESIDEzlmzazlmzBESIDEwbyuaBOWTIEzvsurdngcwbrdngangBOWTIEaypzvsurdng
cwbrdngazuHOURGLASSangHOURGLASSasuWIGGLY FENCEawbWIGGLY FENCEasupnWIGGLY FENCEawbpnWIGGLY FENCE
aINCOMPLETE INFINITYaTIEvaINFINITYaINFINITY NEGATEDzvzlmzaDOUBLE-ENDED MULTIMAP
axmzvCONTOURED OUTLINEaINCREASES ASaSHUFFLEvnapzxamkxfPARALLELfzvyombaIDENTICAL TOmkxfPARALLEL
aGLEICH STARKaTHERMODYNAMICapqyuzvsurdngdwbrdngangpezvppmtbtjazunwzvppmtangnwzvppmtaERROR-BARREDzuxm
bngxmbzupebngpebzunwbngnwaRULE-DELAYEDavzxiuxaxizvvbavzxizvrsxsaBIGxibvzxiapnvjayxvjasvCURVEDmlnk
awcCURVEDmlnkaTINYaMINYaN-ARYnxpjuxcvjuxcypuxbUNIONuxzvpjevjbxmscuxcUNIONuxazctfmkuxcORuxaN-ARYypux
aMODULOzcSUMaSUMMATIONzvsbavssbuxaFINITE PARTsbasbzvpnxsbAVERAGEzvSLASHaCIRCULATION FUNCTION
ammINTEGRATIONatdINTEGRATIONzvRECTANGULAR PATH AROUND POLEdSEMICIRCULAR PATH AROUND POLE
cukINCLUDINGyhPOLEasbAROUND A POINTuxaQUATERNIONsbuxasbzvsxmtzvrrcypxacsccUNIONcvbczeaJOINasssuyuux
aZ NOTATION SCHEMA COMPOSITIONdPIPINGdPROJECTIONavjxazvxgnwmbdnzmcmbdyombdpjnbdyonbdSUBSCRIPTzcdngyu
attxazvoembdpjnbdFALLINGpldRISINGplavjxaINsurdnwdwbrdnwaVECTOR ORojvnauaxazvpjmbdze
aSEMIDIRECTvnzvnjobaSMASHvnauaxaINsurdnwdwbrdnwanxuaxazvnzmcauaxaINpnnwanxDIVISIONxaavjxaINyu
attxaINyuauaxaINyuaINTERIORvnaRIGHTHAND INTERIORvnaZ NOTATION RELATIONAL COMPOSITION
aAMALGAMATION OR COPRODUCTasczvpjaUNIONzvttxacvbasczvvbctfmkaUNIONzvtfORbmbscascmbUNION
aUNIONmbmzmbscascmbmzmbUNIONaUNION BESIDEmkJOINEDzvUNIONascBESIDEmkJOINEDzvscaobUNIONzvSERIFS
bsczvSERIFSapnxmsccUNIONaobUNIONzvSERIFSmkSMASHvnatfmkzvpjmbbORzvpjmbapntfmkcORazcINTERSECTINGtfmk
dORaSLOPINGssORcmkatfOR OVERLAPPINGtfmkbmkzvtsSTEMbORzvtsSTEMbmkzvrsotbORzvrsotbmkzvpnvbdzedpnze
axgVEEzvzeatfORzvpnvbezeaZ NOTATION DOMAIN ANTIRESTRICTIONcRANGE ANTIRESTRICTIONapzxazvpjnb
aIDENTICALzvpjmbayxrsmzzvpnzlxseyxzlxsayouxzvpjmbdRISINGplaSIMILARttSIMILARaCONGRUENTzvpjmbapzzvmx
amfpyTOzvnzmcaAPPROXIMATELYpyORpyTOapzxambvjxaavjxambpzxaapzxambyouxapnocpyazcCONSECUTIVEpzSIGNS
aylCONSECUTIVEpzSIGNSapzxazvzcplmbmkzcplnbaqbzvqnplmbaszzvnwrzaqxzvnwrzaszzvvvtnmbaqxzvvvtnmb
aszORxfpyTOaqxORxfpyTOaszORxfpyTOzvpjrzaqxORxfpyTOzvpjrzaszORxfpyTOzvpjmbaqxORxfpyTOzvpjmb
aszORxfpyTOzvpjmbwbaqxORxfpyTOzvpjmbsuaszOR APPROXIMATEaqxOR APPROXIMATEaszmkSINGLE-LINEukpyTO
aqxmkSINGLE-LINEukpyTOaszmkukAPPROXIMATEaqxmkukAPPROXIMATEaszmbDOUBLE-LINEpymbqx
aqxmbDOUBLE-LINEpymbszaszmbSIMILAR ORpyaqxmbSIMILAR ORpyaszmbSIMILARmbqxaqxmbSIMILARmbsz
aszmbqxmbDOUBLE-LINEpyaqxmbszmbDOUBLE-LINEpyaszmbxfpymbqxmbxfpyaqxmbxfpymbszmbxfpyaxfpyTO ORszeqx
eszzvpjrzeqxzvpjrzaDOUBLE-LINEpyTO ORszeqxbxfpyTO ORszfqxaSIMILAR ORszcqxbmbszmbpzxacqxmbpzxa
apnNESTEDszcqxcszzvzeaqxOVERLAPPINGszbBESIDEszaszobBYopaqxobBYopaszobBYopmbxfpyaqxobBYopmbxfpy
aSMALLER THANaLARGER THANaSMALLER THAN ORpyTOaLARGER THAN ORpyTOapzxazvBUMPYmbavmmbSINGLE-LINEpzxa
axumbSINGLE-LINEpzxaavmmbSINGLE-LINEukpyTOaxumbSINGLE-LINEukpyTOavmmbpzxaaxumbpzxaavmmbukpyTO
axumbukpyTOavmmbmfpyTOaxumbmfpyTOavmmbukmfpyTOaxumbukmfpyTOapnvmbxuaxtzvpjaxwzvpjaxtzvvjxanb
axwzvvjxanbaxtzvuaxanbaxwzvuaxanbaxtOF ORpyTOzvpjmbaxwOF ORpyTOzvpjmbaxtOFmbpzxaaxwOFmbpzxa
axtOFmbyouxaxwOFmbyouxaxtOFmbmfpyTOaxwOFmbmfpyTOaxtOFmbukpyTOaxwOFmbukpyTOaxmsuuwBOXuxbwbuwBOXux
aobxtbxwbxtORpyTObxwORpyTOaxtmbxwaxwmbxtaxtmbxtaxwmbxwbBESIDExtcmkJOINED BYotzvxt
aELEMENT OF OPENINGpraPITCHFORKzvTEEysaTRANSVERSALscaFORKINGaNONFORKINGawxsuxzbppxzbUPxz
aPERPENDICULARzvSazlmzyxwbTURNSTILEapnzlmzsuTURNSTILEazlmzpnsuTURNSTILEapnzlmzpnsuTURNSTILE
atgotqpsuMEMBER OFpnzlawxppxzzvvbbUPxzzvzedmbwxppxzapnppxzbUPxzbxsukxaawapnxsukxa
aDOESukDIVIDEzvwaNEGATION SLASHazltdzvnwmbenbappxzzvnwnbaPARALLELzvrsxscyouxayxzlmzBINARY RELATION
dzvrsxsbocuxbNESTEDszcqxaDOUBLE-LINExfszORpyTOcqxORpyTOayxxiBINARY RELATIONassyxzlmzuxapnxiuxazuzlmz
aN-ARYzuzlmzaujpszumtbzszumtaxjpszumtbzszumtasuwbzumtasxngmtazingmtaprngmtaujpsngmtbzsngmtaxjpsngmt
bzsngmtasuwbngmtaUPppngmtawdmtzvTIPpreziasxmtzvTIPpreziaxmzvysrdngcnjrdngczgwbpcrdngctisupcrdng
apezvsurdngcwbrdngcysrdngcnjrdngapmxmangssxmazussxmangzmxgxmazuzmxgxmangPENTAGONazuPENTAGONbHEXAGON
angHEXAGONarsngHEXAGONangssnwbtqpeazutqpeangtqtjazutqtjangxgpectjazuxgtjangrsELLIPSEazursELLIPSE
angzlELLIPSEazuzlELLIPSEasumtzvxgnwaylsxmvasumtzvnxvjatgsxSQUIGGLEmtasxzdmtzvzlxsepnzlxsdqpmzcyxotmt
bmtzvpmSTEMdyazvzlxsfpnzlxsbzdmtzvyafzvzlxsgpnzlxsbmtymXaWAVEmtvlDIRECTLYsuapzxambsxmtavzyouxmbsxmt
asxmtmbvzmfpyTOawdmtymqxdxwasxvsmtawdvsmtavzyouxmbwdmtawdmtmbvzmfpyTOayouxmbsxmtasxmtmbmfpyTOdvzyoux
awdmtmbvzyouxapryvZIGZAGmtawxxfujmtbBACKSLANTEDxjmtazutqxpangxgxpazuxgxpangwcPENTAGONazuwcPENTAGON
arnssnwbOVALzvOVALrzbnwzvnwrzbnwbnxSALTIREaxfujmtzvHOOKED HEADaBACKSLANTEDxjmtzvHOOKEDya
axfujmtzvrsyaaBACKSLANTEDxjmtzvrsyaandmtvlprTHENujpsawxndmtvlprTHENujpsasxyvmtaziyvmtawdyvmtapryvmt
asuwbyvmtaUPppyvmtaujzsyvmtbpsyvmtaxjpsyvmtbzsyvmtasxyvDASHEDmtaziyvDASHEDmtawdyvDASHEDmt
apryvDASHEDmtaoayvuwnwmtammyvuwnwmtasxyvmtTOmzaziyvmtTOmzawdyvmtTOmzapryvmtTOmz"),
  (0x2B76, "aujzsyvmtTOmzbpsyvmtTOmzaxjpsyvmtTOmzbzsyvmtTOmzasxyvmtzvpnrsxsaziyvmtzvpnrsxs
awdyvmtzvpnrsxsapryvmtzvpnrsxsarsTAB KEYazlTAB KEYasxyvmtvawdyvmtaziyvmtsxOFpryvmtawdyvmtvasxyvmt
apryvmtsxOFziyvmtasxyvPAIREDmvaziyvPAIREDmvawdyvPAIREDmvapryvPAIREDmvasxngnxzumtazingnxzumt
awdngnxzumtaprngnxzumtammyvwbU-SHAPEDmtcnjU-SHAPEDmtcsuU-SHAPEDmtcysU-SHAPEDmtaRETURNsubwbaNEWLINEsu
bwbaqnoimvCIRCLINGmmawdngmt"),
  (0x2B97, "axyqjTYPE A ELECTRONICSaTHREE-D TOP-LIGHTEDsxqamubRIGHT-LIGHTEDziqamubTOP-LIGHTEDwdqamu
bLEFT-LIGHTEDprqamuangsxqamubziqamubwdqamubprqamuapryvmtzvtgTIPsxgwdaziyvmtzvtgTIPsxgwd
asxyvmtzvtgTIPziawdyvmtzvtgTIPziasxyvmtzvtgTIPprawdyvmtzvtgTIPprangCURVEDprmksxmtewdmtczimksxmtewdmt
csxmkzimtcwdmkzimtcsxmkprmtcwdmkprmtaRIBBONmtppsudwbcUPsudwbcsuUPcwbUPcsuppcwbppazizumtqpmzzvrsmz
aUPmuIN A RECTANGLE BOXaOVERLAPPINGzuSQUAREScmkngSQUARESbngSQUARESaBALLOT BOXzvtcXanxXbniX
angxmCENTREDbpeCENTREDazangPENTAGONarsngOCTAGONangOCTAGONbtqzfyuCENTREDcpqyuCENTREDcsvyuCENTRED
cwcyuCENTREDaNEPTUNEqkzcaysrdngnwanjrdngnwatcqnvkngCUSPawftcqnvkngCUSPazuqnvkCUSPawfzuqnvkCUSP
axmPOSITION INDICATORaUNCERTAINTYxaaGROUPtnaPLUTOqkzccylcqncqiaTRANSPLUTOaPROSERPINAaASTRAEAaHYGIEA
aPHOLUSaNESSUSazutvSELENAangpeONojaTRUEtctvARTAaCUPIDOaHADESaZEUSaKRONOSaAPOLLONaADMETOSaVULCANUS
aPOSEIDONasurdngxpawbrdngxpaxpzvsurdngcwbrdngasxzdmtzvyuARROWHEADSazizdmtzvyuARROWHEADS
awdzdmtzvyuARROWHEADSaprzdmtzvyuARROWHEADSaERISqkuvczcaSEDNAaRUSSIAN ASTROLOGICALxyVIGINTILEdNOVILE
dQUINTILEdBINOVILEdSENTAGONdTREDECILEapzxazvINFINITYnbaUNITEDxyaSEPARATEDxyaDOUBLEDxyaPASSEDxy
awawbmlaHELLSCHREIBER PAUSExyaGLAGOLITICnptaAZUdBUKYdVEDEdGLAGOLIdDOBROdYESTUdZHIVETEdDZELOdZEMLJA
dIZHEdryIZHEdIdDJERVIdKAKOdLJUDIJEdMYSLITEdNASHIdONUdPOKOJIdRITSIdSLOVOdTVRIDOdUKUdFRITUdHERUdOTUdPE
dSHTAdTSIdCHRIVIdwrdYERUdYERIdYATIdSPIDERY HAdYUdxgYUSfzvyadYOdIOTATEDxgYUSdBIG YUSdIOTATED BIG YUS
dFITAdIZHITSAdSHTAPICdTROKUTASTI AdLATINATE MYSLITEdCAUDATE CHRIVIbxgtaAZUdBUKYdVEDEdGLAGOLIdDOBRO
dYESTUdZHIVETEdDZELOdZEMLJAdIZHEdryIZHEdIdDJERVIdKAKOdLJUDIJEdMYSLITEdNASHIdONUdPOKOJIdRITSIdSLOVO
dTVRIDOdUKUdFRITUdHERUdOTUdPEdSHTAdTSIdCHRIVIdwrdYERUdYERIdYATIdSPIDERY HAdYUdxgYUSfzvyadYO
dIOTATEDxgYUSdBIG YUSdIOTATED BIG YUSdFITAdIZHITSAdSHTAPICdTROKUTASTI AdLATINATE MYSLITE
dCAUDATE CHRIVIastnptaLzvpnmzbxgtaLzvpnmzbnptaLzvtsyodPzvxsdRzvyabxgtaAzvxsdTzvpcxsbnptaHzvoz
bxgtaHzvozbnptaKzvozbxgtaKzvozbnptaZzvozbxgtaZzvozbnptamhdMzvrrdzaAemhbxgtaVzvwbrrbnptaWzvrr
bxgtaWzvrrdVzvCURLbnptardHbxgtardHdTAILLESS PHIdEzvNOTCHdzaRzvyadOzvthwerzbtaxgnpzaEbSUBSCRIPTxgtaJ
atutanpVastnptaSzvSWASHyadZzvSWASHyaaohnptaALFAbxgtaALFAbnptaVIDAbxgtaVIDAbnptaqrbxgtaqrbnptaDALDA
bxgtaDALDAbnptaEIEbxgtaEIEbnptaSOUbxgtaSOUbnptaZATAbxgtaZATAbnptaHATEbxgtaHATEbnptaTHETHEbxgtaTHETHE
bnptaIAUDAbxgtaIAUDAbnptaKAPAbxgtaKAPAbnptaLAULAbxgtaLAULAbnptaMIbxgtaMIbnptaNIbxgtaNIbnptaKSI
bxgtaKSIbnptaObxgtaObnptaPIbxgtaPIbnptaRObxgtaRObnptaSIMAbxgtaSIMAbnptaTAUbxgtaTAUbnptaUAbxgtaUA
bnptaFIbxgtaFIbnptaKHIbxgtaKHIbnptaPSIbxgtaPSIbnptaOOUbxgtaOOUbnptaDIALECT-PmebxgtaDIALECT-Pme
bnptausohAINbxgtausohAINbnptaonEIEbxgtaonEIEbnptaDIALECT-P KAPAbxgtaDIALECT-P KAPAbnptaDIALECT-P NI
bxgtaDIALECT-P NIbnptaonNIbxgtaonNIbnptausohOOUbxgtausohOOUbnptaSAMPIbxgtaSAMPIbnptaokSHEI
bxgtaokSHEIbnptausohSHEIbxgtausohSHEIbnptausohESHbxgtausohESHbnptaAKHMIMIC KHEIbxgtaAKHMIMIC KHEI
bnptaDIALECT-P HORIbxgtaDIALECT-P HORIbnptausohHORIbxgtausohHORIbnptausohHAbxgtausohHA
bnptaL-SHAPED HAbxgtaL-SHAPED HAbnptausohHEIbxgtausohHEIbnptausohHATbxgtausohHATbnptausohGANGIA
bxgtausohGANGIAbnptausohDJAbxgtausohDJAbnptausohSHIMAbxgtausohSHIMAbnptausNUBIAN SHIMA
bxgtausNUBIAN SHIMAbnptausNUBIAN NGIbxgtausNUBIAN NGIbnptausNUBIAN NYIbxgtausNUBIAN NYI
bnptausNUBIAN WAUbxgtausNUBIAN WAUbxyKAIcMI ROcPI ROcSTAUROScTAU ROcKHI ROcSHIMA SIMAbnptaonSHEI
bxgtaonSHEIbnptaonGANGIAbxgtaonGANGIAbodNImbcSPIRITUS ASPERdLENISbnptaBOHAIRIC KHEI
bxgtaBOHAIRIC KHEI"),
  (0x2CF9, "aohusNUBIANqqxqdDIRECTvvtndINDIRECTvvtndVERSE DIVIDERbqouvrdbqqxqbMORPHOLOGICAL DIVIDER
aqsxgtaANdBANdGANdDONdENdVINdZENdTANdINdKANdLASdMANdNARdONdPARdZHARdRAEdSANdTARdUNdPHARdKHARdGHAN
dQARdwwdCHINdCANdJILdCILdCHARdXANdJHANdHAEdHEdHIEdWEdHARdHOE"),
  (0x2D27, "aqsxgtaYN"),
  (0x2D2D, "aqsxgtaAEN"),
  (0x2D30, "aTIFINAGHtaYAcYABcYABHcYAGcYAGHHcBERBER ACADEMY YAJcYAJcYADcYADHcYADDcYADDHcYEYcYAFcYAK
cTUAREG YAKcYAKHHcYAHcBERBER ACADEMY YAHcTUAREG YAHcYAHHcYAAcYAKHcTUAREG YAKHcYAQcTUAREG YAQcYIcYAZH
cAHAGGAR YAZHcTUAREG YAZHcYALcYAMcYANcTUAREG YAGNdYANGcYAPcYUcYARcYARRcYAGHcTUAREG YAGHcAYER YAGH
cYAScYASScYASHcYATcYATHcYACHcYATTcYAVcYAWcYAYcYAZcTAWELLEMET YAZcYAZZcYEcYO"),
  (0x2D6F, "aTIFINAGHtutaLABIALIZATIONtnbwotn"),
  (0x2D7F, "aTIFINAGHogJOINERaqcxxLOAcMOAcROAcSOAcSHOAcBOAcTOAcCOAcNOAcNYOAcquOAcZOAcDOAcDDOAcJOA
cTHOAcCHOAcPHOAcPOAcGGWAcGGWIcGGWEEcGGWE"),
  (0x2DA0, "aqcxxxocSSUcSSIcSSAAcSSEEcSSEcSSO"),
  (0x2DA8, "aqcxxCCAcCCUcCCIcCCAAcCCEEcCCEcCCO"),
  (0x2DB0, "aqcxxZZAcZZUcZZIcZZAAcZZEEcZZEcZZO"),
  (0x2DB8, "aqcxxCCHAcCCHUcCCHIcCCHAAcCCHEEcCCHEcCCHO"),
  (0x2DC0, "aqcxxQYAcQYUcQYIcQYAAcQYEEcQYEcQYO"),
  (0x2DC8, "aqcxxKYAcKYUcKYIcKYAAcKYEEcKYEcKYO"),
  (0x2DD0, "aqcxxXYAcXYUcXYIcXYAAcXYEEcXYEcXYO"),
  (0x2DD8, "aqcxxGYAcGYUcGYIcGYAAcGYEEcGYEcGYO"),
  (0x2DE0, "aodoqtaBEdVEdGHEdDEdZHEdZEdKAdELdEMdENdOdPEdERdESdTEdHAdTSEdCHEdwrdSHCHAdFITAdES-TEdAdIE
dDJERVdMONOGRAPH UKdYATdYUdsfAdteYUSdBIG YUSdsfBIG YUSawbmlSUBSTITUTION MARKERcpmSUBSTITUTION MARKER
asuSUBSTITUTIONnkawbSUBSTITUTIONnkasupmSUBSTITUTIONnkawbpmSUBSTITUTIONnkavxINTERPOLATION MARKER
bpmINTERPOLATION MARKERapmTRANSPOSITION MARKERasuTRANSPOSITIONnkawbTRANSPOSITIONnkavxxm
asuvxOMISSIONnkawbvxOMISSIONnkaEDITORIAL CORONISaPARAGRAPHOSaFORKED PARAGRAPHOSawaFORKED PARAGRAPHOS
aHYPODIASTOLEapmOBELOSaprANCORAaziANCORAapmwcmlapnuqHYPHENasdINTERROBANGaPALM BRANCHaHYPHENzvpb
ayozvwembasuthPARAPHRASEnkawbthPARAPHRASEnkayozvpjmbdnbasuzlmzzvQUILLawbzlmzzvQUILLayssurdnkbwbrdnk
anjsurdnkbwbrdnkasuSIDEWAYS UnkawbSIDEWAYS Unkasupnvfawbpnvfazcplvauvpjvqauvpjvazcplvqaxnqnpjvq
aqipjtnawavvtnazlyoawePOINTaWORDwotspjazaoeavxpjboeazawnaDAGGERzvsuGUARDcwbGUARDazaDAGGERaysrdwlxa
aTWO-EMotaTHREE-EMotaSTENOGRAPHICqqxqazlxeplaWIGGLYzltdaCAPITULUMapnHYPHENawaoeapnLOW-REVERSED-9vwtn
aotzvsuUPTURNapnSUSPENSIONtnasdthKAVYKAdzvKAVYKAmbathKAVYKAczvpjapnSTACKEDoeapmxiayxDAGGER
aMEDIEVALoeaPARAGRAPHUStnaPUNCTUS ELEVATUStnaCORNISH VERSE DIVIDERaojPATTYzvwbCROSSBARdsuCROSSBAR
aTIRONIANxanpETaMEDIEVALqdtnbvvtnasuxmnkzvxsawbxmnkzvxsasuxmnkzvpnxsawbxmnkzvpnxsaysrdsuvfcwbvf
anjrdsuvfcwbvfauqHYPHEN")]

end EstreeEmitter.Text
